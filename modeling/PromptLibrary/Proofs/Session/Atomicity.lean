import PromptLibrary.Proofs.Session

/-!
# Edits of the library are atomic

The three edits that a session can make of the library are commits. Whatever fails on the way (the
edit itself, one of the moves of the rotation, the copy, or the write at the end), the loaded
library and the library file are what they were, and otherwise both are the edited library.

The library file must not be one of its own slots, since a rotation moves and overwrites slots
before it is known whether the write succeeds.
-/

namespace PromptLibrary

open MemoryStore

/-- The backups of a workspace's library file. -/
def Workspace.rotator (w : Workspace) : Rotator :=
  ⟨w.config.libraryFile, w.config.maxBackups⟩

/-! ## Edits -/

/-- An edit of the library that a session can make. -/
inductive LibraryEdit where
  /-- A template is added. -/
  | add (name : String) (t : Template)
  /-- The schema for a list of fields is stored. -/
  | applySchema (name : String) (fields : List Schema.Field) (title : Option String)
  /-- A response format that somebody has written is stored. -/
  | setFormat (name text : String)

namespace LibraryEdit

/-- The edit as a session. -/
def session {m : Type → Type} [Monad m] [FileStore m] : LibraryEdit → Session m Unit
  | add name t => Session.addTemplate name t
  | applySchema name fields title => Session.applyOutputSchema name fields title
  | setFormat name text => Session.setResponseFormat name text

/-- The edited library, before anything is saved. -/
def edited (w : Workspace) : LibraryEdit → Except Error Library
  | add name t => w.library.insert name t
  | applySchema name fields title =>
    w.library.applyOutputSchema name fields (title.getD w.config.schemaTitle)
  | setFormat name text => w.library.setResponseFormat name text

theorem perform_session (e : LibraryEdit) (w : Workspace) (s : MemoryStore) :
    Session.perform e.session w s =
      match e.edited w with
      | .error err => (.error err, w, s)
      | .ok l =>
        match perform (l.save w.config.libraryFile w.config.maxBackups) s with
        | (.ok (), t) => (.ok (), { w with library := l }, t)
        | (.error err, t) => (.error err, w, t) := by
  cases e with
  | add name t => exact Session.perform_commit (.insert name t) w s
  | applySchema name fields title =>
    rw [session, Session.applyOutputSchema, Session.perform_bind]
    exact Session.perform_commit
      (.applyOutputSchema name fields (title.getD w.config.schemaTitle)) w s
  | setFormat name text => exact Session.perform_commit (.setResponseFormat name text) w s

/-! ## Atomicity -/

/-- An edit that failed has changed neither the loaded library nor the library file, and one that
succeeded has changed both to the edited library. An edit fails only for a reason. -/
structure Atomic (e : LibraryEdit) (w : Workspace) (s : MemoryStore)
    (result : Except Error Unit) (w' : Workspace) (t : MemoryStore) : Prop where
  /-- After a failure the workspace and the library file are as before. -/
  failed : ∀ err, result = .error err →
    w' = w ∧ t.get? w.config.libraryFile = s.get? w.config.libraryFile ∧
      t.has w.config.libraryFile = s.has w.config.libraryFile
  /-- After a success the edited library is loaded and in the file. If there was a file before, its
  text is in the first slot. -/
  done : result = .ok () → ∃ l, e.edited w = .ok l ∧ w' = { w with library := l } ∧
    t.get? w.config.libraryFile = some l.toText ∧
    (s.has w.config.libraryFile = true → (s.get? w.config.libraryFile).isSome = true ∧
      t.get? (w.rotator.slot 1) = s.get? w.config.libraryFile)
  /-- No other file than the library file and its slots has changed. -/
  others : ∀ q, (w.config.libraryFile == q) = false →
    (∀ p ∈ w.rotator.slots, (p == q) = false) → t.get? q = s.get? q
  /-- An edit that can be made is made, if no path is refused or is that of a directory. -/
  succeeds : ∀ l, e.edited w = .ok l →
    s.Unobstructed (w.config.libraryFile :: w.rotator.slots) → result = .ok ()

/-- **Edits are atomic**, whatever the files are and whichever changes of files are refused. -/
theorem atomic_session (e : LibraryEdit) (w : Workspace) (s : MemoryStore)
    (hr : w.rotator.Apart) :
    let (result, w', t) := Session.perform e.session w s
    Atomic e w s result w' t := by
  rw [perform_session]
  cases hedit : e.edited w with
  | error err =>
    refine ⟨fun _ _ ↦ ⟨rfl, rfl, rfl⟩, nofun, fun _ _ _ ↦ rfl, ?_⟩
    intro l hl
    rw [hedit] at hl
    cases hl
  | ok l =>
    have hsaved := l.saved_save hr s
    have hok := l.save_ok hr (s := s)
    dsimp only
    rcases hrun : perform (l.save w.config.libraryFile w.config.maxBackups) s with ⟨err | ⟨⟩, t⟩
    · rw [hrun] at hsaved hok
      cases hsaved with
      | failed hf =>
        -- at most slots differ, and the library file is none of them
        refine ⟨fun _ _ ↦ ⟨rfl, hf.files _ hr, hf.has_eq hr⟩, nofun, fun q _ hq ↦ hf.files q hq, ?_⟩
        intro _ _ hs
        exact absurd (hok hs) nofun
    · rw [hrun] at hsaved
      cases hsaved with
      | done hfile hslot hrest =>
        exact ⟨nofun, fun _ ↦ ⟨l, hedit, rfl, hfile, hslot⟩, hrest, fun _ _ _ ↦ rfl⟩

/-- The second generation has been moved on when the move of the first one is refused: the rotation
stops half way, and the library file is untouched. -/
theorem atomic_session_half_rotated :
    let w : Workspace := { config := Config.new ⟨"/lib"⟩ }
    let s : MemoryStore :=
      { files := [(⟨"/lib/prompts.json"⟩, "{}"), (⟨"/lib/prompts.bak1"⟩, "1"),
          (⟨"/lib/prompts.bak2"⟩, "2")],
        failing := [⟨"/lib/prompts.bak2"⟩] }
    let e := add "greeting" (Template.withText "Hello << name >>")
    w.rotator.Apart ∧ (Session.perform e.session w s).1.isOk = false ∧
      let (result, w', t) := Session.perform e.session w s
      Atomic e w s result w' t := by
  intro w s e
  have hr : w.rotator.Apart := by
    unfold Rotator.Apart
    decide +kernel
  have herr : (Session.perform e.session w s).1.isOk = false := by decide +kernel
  exact ⟨hr, herr, atomic_session e w s hr⟩

end LibraryEdit

end PromptLibrary
