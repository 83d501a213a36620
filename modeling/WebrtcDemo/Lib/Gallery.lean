import Mathlib.Data.Option.Basic
import Mathlib.Logic.Function.Basic

/-!
# Galleries

What a screen with windows is for. An open window holds the picture delivered to it last,
and shows that picture whenever it is painted. One of the windows is the preview of a
source: a picture of the source is delivered there and passed on, and is dropped where that
window is not open.
-/

/-- An open window: the picture it holds, and the pictures it has shown. -/
structure Pane (α : Type*) where
  held : Option α := none
  shown : List α := []

namespace Pane

variable {α : Type*} (p : Pane α)

def deliver (a : α) : Pane α := { p with held := some a }

def paint : Pane α := { p with shown := p.shown ++ p.held.toList }

end Pane

structure Gallery (κ α : Type*) where
  panes : κ → Option (Pane α)
  preview : κ
  passed : List α := []

/-- What happens to windows. -/
inductive GalleryEvent (κ α : Type*) where
  | captured (a : α)
  | received (window : κ) (a : α)
  | previewIn (window : κ)
  | opened (window : κ)
  | closed (window : κ)
  | painted (window : κ)

namespace Gallery

variable {κ α β : Type*}

/-- No window is open. -/
def empty (preview : κ) : Gallery κ α := { panes := fun _ => none, preview }

section
variable [DecidableEq κ] (g : Gallery κ α)

/-- A window is changed. -/
def set (window : κ) (pane : Option (Pane α)) : Gallery κ α :=
  { g with panes := Function.update g.panes window pane }

def deliver (window : κ) (a : α) : Gallery κ α := g.set window ((g.panes window).map (·.deliver a))

def step : GalleryEvent κ α → Gallery κ α
  | .captured a =>
    if (g.panes g.preview).isSome then { g.deliver g.preview a with passed := g.passed ++ [a] }
    else g
  | .received window a => g.deliver window a
  | .previewIn window => { g with preview := window }
  | .opened window => g.set window (some {})
  | .closed window => g.set window none
  | .painted window => g.set window ((g.panes window).map (·.paint))

end

/-! ## Windows that realize a gallery -/

/-- Each window realizes its pane, and the same windows are open. -/
def Realized (R : β → Pane α → Prop) (screen : κ → Option β) (panes : κ → Option (Pane α)) : Prop :=
  ∀ window, Option.Rel R (screen window) (panes window)

variable {R : β → Pane α → Prop} {screen : κ → Option β} {panes : κ → Option (Pane α)}
  {window : κ}

theorem Realized.isSome (realized : Realized R screen panes) (window : κ) :
    (panes window).isSome = (screen window).isSome := by
  have related := realized window
  generalize screen window = v, panes window = pane at related
  cases related <;> rfl

variable [DecidableEq κ]

theorem Realized.update (realized : Realized R screen panes) {v : Option β} {pane : Option (Pane α)}
    (changed : Option.Rel R v pane) :
    Realized R (Function.update screen window v) (Function.update panes window pane) := by
  intro other
  by_cases same : other = window
  · subst same
    rwa [Function.update_self, Function.update_self]
  · rw [Function.update_of_ne same, Function.update_of_ne same]
    exact realized other

/-- What happens to an open window happens to its pane. -/
theorem Realized.map (realized : Realized R screen panes) {f : β → β} {f' : Pane α → Pane α}
    (keeps : ∀ v pane, screen window = some v → R v pane → R (f v) (f' pane)) :
    Realized R (Function.update screen window ((screen window).map f))
      (Function.update panes window ((panes window).map f')) := by
  refine realized.update ?_
  have related := realized window
  generalize there : screen window = v, panes window = pane at related
  cases related with
  | none => exact .none
  | some related => exact .some (keeps _ _ there related)

end Gallery
