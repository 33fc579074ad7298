import PromptLibrary.Library.Answer
import PromptLibrary.Proofs.Store.Memory

/-!
# Changes of a library

What each change does to a library, as an equation without a program in it: its result, and the
library that it leaves, also when it fails. Every change checks before it changes anything, so one
that fails leaves the library as it was.
-/

namespace PromptLibrary.Library

variable {l : Library} {name : String} {t : Template}

/-! ## Templates that are there -/

theorem require_of_get? (h : l.get? name = some t) : l.require name = .ok t := by
  rw [require, h]

theorem require_of_none (h : l.get? name = none) :
    l.require name = .error (.templateNotFound name) := by
  rw [require, h]

theorem get?_of_require (h : l.require name = .ok t) : l.get? name = some t := by
  cases hget : l.get? name with
  | none =>
    rw [require_of_none hget] at h
    cases h
  | some u =>
    rw [require_of_get? hget] at h
    exact congrArg some (Except.ok.inj h)

/-! ## Changes in place -/

namespace Change

@[simp] theorem perform_require (name : String) (l : Library) :
    perform (require name) l = (l.require name, l) := rfl

theorem perform_insert (name : String) (t : Template) (l : Library) :
    perform (insert name t) l =
      if Text.trim name = "" then (.error (.invalidTemplateName (Text.trim name)), l)
      else if Entries.contains l.templates (Text.trim name) then
        (.error (.templateExists (Text.trim name)), l)
      else (.ok (), { l with templates := Entries.insert (Text.trim name) t l.templates }) := by
  rw [insert, perform_bind, perform_get]
  dsimp only
  split
  · rfl
  · split <;> rfl

theorem perform_update (name : String) (f : Template → Template) (l : Library) :
    perform (update name f) l =
      match l.require name with
      | .ok _ => (.ok (), { l with templates := Entries.modify name f l.templates })
      | .error e => (.error e, l) := by
  rw [update, perform_bind, perform_require]
  cases l.require name <;> rfl

theorem perform_remove (name : String) (l : Library) :
    perform (remove name) l =
      match l.require name with
      | .ok t => (.ok t, { l with templates := Entries.erase name l.templates })
      | .error e => (.error e, l) := by
  rw [remove, perform_bind, perform_require]
  cases l.require name <;> rfl

theorem perform_setResponseFormat (name text : String) (l : Library) :
    perform (setResponseFormat name text) l =
      match l.require name, Schema.parseFormat text with
      | .ok _, .ok v => perform (update name (·.setResponseFormat (some v))) l
      | .ok _, .error e => (.error (.schemaParse e), l)
      | .error e, _ => (.error e, l) := by
  rw [setResponseFormat, perform_bind, perform_require]
  cases l.require name with
  | error e => rfl
  | ok t =>
    dsimp only
    rw [perform_bind]
    cases Schema.parseFormat text <;> rfl

variable {α : Type}

theorem result_eq (x : Change α) (l : Library) :
    x.result l = (perform x l).1.map (·, (perform x l).2) := by
  have hrun : x.run.run l = perform x l := rfl
  rw [result, hrun]
  rcases perform x l with ⟨_ | _, l'⟩ <;> rfl

theorem after_eq (x : Change α) (l : Library) :
    x.after l = (perform x l).1.map fun _ ↦ (perform x l).2 := by
  rw [after, result_eq]
  cases (perform x l).1 <;> rfl

end Change

/-! ## Changed libraries -/

theorem insert_eq (l : Library) (name : String) (t : Template) :
    l.insert name t =
      if Text.trim name = "" then .error (.invalidTemplateName (Text.trim name))
      else if Entries.contains l.templates (Text.trim name) then
        .error (.templateExists (Text.trim name))
      else .ok { l with templates := Entries.insert (Text.trim name) t l.templates } := by
  rw [insert, Change.after_eq, Change.perform_insert]
  split
  · rfl
  · split <;> rfl

theorem update_eq (l : Library) (name : String) (f : Template → Template) :
    l.update name f = (l.require name).map fun _ ↦
      { l with templates := Entries.modify name f l.templates } := by
  rw [update, Change.after_eq, Change.perform_update]
  cases l.require name <;> rfl

theorem update_of_get? (h : l.get? name = some t) (f : Template → Template) :
    l.update name f = .ok { l with templates := Entries.modify name f l.templates } := by
  rw [update_eq, require_of_get? h]
  rfl

theorem setResponseFormat_eq (l : Library) (name text : String) :
    l.setResponseFormat name text =
      (l.require name).bind fun _ ↦ ((Schema.parseFormat text).mapError Error.schemaParse).bind
        fun v ↦ l.update name (·.setResponseFormat (some v)) := by
  rw [setResponseFormat, Change.after_eq, Change.perform_setResponseFormat]
  cases l.require name with
  | error e => rfl
  | ok t =>
    cases Schema.parseFormat text with
    | error e => rfl
    | ok v => exact (Change.after_eq _ _).symm

end PromptLibrary.Library
