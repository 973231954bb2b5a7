import Mathlib

/-!
# Lists cut into pieces

A list of items goes with a list of sizes, each under a tag, that says how to cut it. A layout has
the pieces themselves.

* `Layout`, `Layout.items`, `Layout.sizes`: the pieces, what they hold and how long they are.
* `Layout.piece`: the piece under a tag, if it holds anything.
* `Layout.mem_named_iff`: a tag names a piece exactly when one is found under it.
-/

namespace Library

variable {τ α : Type}

/-- Pieces of a list, each under a tag. -/
abbrev Layout (τ α : Type) := List (τ × List α)

namespace Layout

/-- The list that is cut. -/
def items : Layout τ α → List α
  | [] => []
  | (_, piece) :: layout => piece ++ items layout

/-- The sizes along which it is cut. -/
def sizes (layout : Layout τ α) : List (τ × ℕ) :=
  layout.map fun piece => (piece.1, piece.2.length)

/-- The tags of the pieces that hold something. -/
def named : Layout τ α → List τ
  | [] => []
  | (_, []) :: layout => named layout
  | (tag, _ :: _) :: layout => tag :: named layout

/-- The first piece under a tag that holds something. -/
def piece [DecidableEq τ] : Layout τ α → τ → Option (List α)
  | [], _ => none
  | (_, []) :: layout, tag => piece layout tag
  | (head, a :: as) :: layout, tag => if head = tag then some (a :: as) else piece layout tag

/-- No piece holds no item. -/
@[simp] theorem items_nil : items ([] : Layout τ α) = [] := rfl

/-- The items of a layout are those of its pieces in order. -/
@[simp] theorem items_cons (tag : τ) (as : List α) (layout : Layout τ α) :
    items ((tag, as) :: layout) = as ++ items layout := rfl

/-- No piece has no size. -/
@[simp] theorem sizes_nil : sizes ([] : Layout τ α) = [] := rfl

/-- The sizes of a layout are those of its pieces in order. -/
@[simp] theorem sizes_cons (tag : τ) (as : List α) (layout : Layout τ α) :
    sizes ((tag, as) :: layout) = (tag, as.length) :: sizes layout := rfl

/-- There are as many items as the sizes add up to. -/
theorem length_items (layout : Layout τ α) :
    layout.items.length = (layout.sizes.map Prod.snd).sum := by
  induction layout with
  | nil => rfl
  | cons head layout ih =>
    obtain ⟨tag, as⟩ := head
    rw [items_cons, sizes_cons, List.length_append, ih, List.map_cons, List.sum_cons]

/-- A tag names a piece exactly when one is found under it. -/
theorem mem_named_iff [DecidableEq τ] {layout : Layout τ α} {tag : τ} :
    tag ∈ layout.named ↔ (layout.piece tag).isSome = true := by
  induction layout with
  | nil => simp [named, piece]
  | cons head layout ih =>
    obtain ⟨other, _ | ⟨a, as⟩⟩ := head
    · exact ih
    · by_cases hsame : other = tag
      · simp [named, piece, hsame]
      · simp [named, piece, hsame, ih, Ne.symm hsame]

end Layout

end Library
