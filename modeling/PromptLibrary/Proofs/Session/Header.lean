import PromptLibrary.Proofs.Session.Persistence

/-!
# The header of the library file

No operation of a session takes a header, so one would expect that the header of the library file is
never changed once it is there. It is not quite so. A save writes the header of the library that is
loaded, and that is the header of the file for as long as the file goes with the library. But what
`Workspace.init` creates is written past the loaded library: a workspace that was opened without a
file has an empty header loaded, and the first save after `Workspace.init` puts it over the header
that was created.

`Action.headerAt?_later` says exactly this. At every later moment the stored header is still the
same, or a save has replaced it by the loaded one; the two differ only if the file was missing when
the workspace was opened and `Workspace.init` has created it.

The header is read from the text of the file without regard to the templates, so it is known even if
the file cannot be opened any more.
-/

namespace PromptLibrary

open MemoryStore

/-! ## Files that are created -/

namespace MemoryStore

theorem get?_of_not_has {s : MemoryStore} {p : Path} (h : s.has p = false) : s.get? p = none := by
  rw [has_eq, Bool.or_eq_false_iff] at h
  simpa using h.1

/-- At most one file that was missing has been created, with this text. -/
def Created (p : Path) (text : String) (s t : MemoryStore) : Prop :=
  ∀ q, t.get? q = s.get? q ∨ (p == q) = true ∧ s.get? q = none ∧ t.get? q = some text

theorem created_write {p : Path} {s : MemoryStore} (text : String) (h : s.get? p = none) :
    Created p text s (s.write p text).2 := by
  intro q
  cases hw : s.refuses p with
  | true =>
    rw [write_of_refuses text hw]
    exact .inl rfl
  | false =>
    obtain ⟨t, ht, hget⟩ := write_spec text hw
    rw [ht, hget q]
    cases hq : p == q with
    | false => exact .inl rfl
    | true => exact .inr ⟨rfl, get?_congr hq ▸ h, rfl⟩

theorem created_perform_write {α : Type} {p : Path} {s : MemoryStore} (text : String) (a : α)
    (h : s.get? p = none) :
    Created p text s (perform (do
      withFileErrors (FileStore.write p text)
      return a : ExceptT Error (StateM MemoryStore) α) s).2 := by
  have hwrite := created_write text h
  rw [perform_bind, withFileErrors, perform_adapt, perform_write]
  rcases hrun : s.write p text with ⟨_ | _, t⟩
  all_goals
    rw [hrun] at hwrite
    exact hwrite

end MemoryStore

namespace Workspace

theorem created_writeDefault (root : Path) (s : MemoryStore) :
    Created (Config.pathBelow root) Config.defaultText s
      (perform (Config.writeDefault root : ExceptT Error (StateM MemoryStore) Bool) s).2 := by
  rw [Config.writeDefault, perform_bind, perform_has]
  cases h : s.has (Config.pathBelow root) with
  | true => exact fun _ ↦ .inl rfl
  | false =>
    have hnone := get?_of_not_has h
    dsimp only
    rw [if_neg (by simp)]
    split
    · -- creating directories succeeds and leaves the files alone
      rename_i directory _
      have hmake : perform (withFileErrors (FileStore.makeDirs directory) :
          ExceptT Error (StateM MemoryStore) Unit) s = (.ok (), (s.makeDirs directory).2) := rfl
      rw [perform_bind, hmake]
      exact created_perform_write (s := (s.makeDirs directory).2) _ true hnone
    · exact created_perform_write _ true hnone

/-- **Files are created where they are missing, and nothing else happens**: first the configuration
file, and after it perhaps the library file. -/
theorem created_init (w : Workspace) (s : MemoryStore) :
    ∃ t, Created (Config.pathBelow w.config.root) Config.defaultText s t ∧
      ((perform w.init s).2 = t ∨
        Created w.config.libraryFile (Library.toText { header := newHeader }) t
          (perform w.init s).2) := by
  have hcreated := created_writeDefault w.config.root s
  rw [init, perform_bind]
  rcases hrun : perform (Config.writeDefault w.config.root :
    ExceptT Error (StateM MemoryStore) Bool) s with ⟨e | b, t⟩
  all_goals rw [hrun] at hcreated
  · exact ⟨t, hcreated, .inl rfl⟩
  · refine ⟨t, hcreated, ?_⟩
    dsimp only
    rw [perform_bind, perform_has]
    cases hhas : t.has w.config.libraryFile with
    | true => exact .inl rfl
    | false => exact .inr (created_perform_write _ _ (get?_of_not_has hhas))

end Workspace

/-! ## Reading the header alone -/

namespace Library

/-- The header of a library document. The templates are not looked at. -/
def decodeHeader (budget : Nat) (d : Json.Document) : Option Header := do
  let r ← d.record? ["header", "data"] budget
  r.optional "header" (Header.decode r.budget) {}

/-- The header of a library file's text. -/
def headerOf? (text : String) : Option Header :=
  Json.decodeWith decodeHeader text

theorem headerOf?_toText (l : Library) : headerOf? l.toText = some l.header := by
  have hlimit : Json.nestingLimit = 125 + 1 + 1 := rfl
  rw [headerOf?, decodeWith_toText, decodeHeader, toJson, hlimit,
    Json.Document.record?_object (by rfl) (by decide), Option.bind_eq_bind, Option.bind_some,
    Json.Document.Record.optional_field (by rfl) (Header.decode_document _ _)]

theorem headerOf?_of_ofText {text : String} {path : Path} {l : Library}
    (h : ofText text path = .ok l) : headerOf? text = some l.header := by
  obtain ⟨d, hd, hdecode⟩ := exists_decode_of_ofText h
  obtain ⟨r, hr, hdecode⟩ := Option.bind_eq_some_iff.mp hdecode
  obtain ⟨header, hheader, hdecode⟩ := Option.bind_eq_some_iff.mp hdecode
  obtain ⟨templates, -, hdecode⟩ := Option.bind_eq_some_iff.mp hdecode
  obtain rfl := Option.some.inj hdecode
  rw [headerOf?, Json.decodeWith, hd, Option.bind_some, decodeHeader, hr]
  exact hheader

/-- The text of a new configuration file is no library, since no document begins with its first
character. -/
theorem headerOf?_defaultText : headerOf? Config.defaultText = none := by
  have hfirst : Config.defaultText.toList.head? = some '#' := by decide +kernel
  obtain ⟨cs, hcs⟩ := List.head?_eq_some_iff.mp hfirst
  have hparse : Json.Document.parse? ('#' :: cs) = none := rfl
  rw [headerOf?, Json.decodeWith, hcs, hparse, Option.bind_none]

/-! ## Edits keep the header -/

theorem header_of_update {l l' : Library} {name : String} {f : Template → Template}
    (h : l.update name f = .ok l') : l'.header = l.header := by
  rw [update_eq] at h
  cases hrequire : l.require name with
  | error e =>
    rw [hrequire] at h
    cases h
  | ok t =>
    rw [hrequire] at h
    obtain rfl := Except.ok.inj h
    rfl

theorem header_of_insert {l l' : Library} {name : String} {t : Template}
    (h : l.insert name t = .ok l') : l'.header = l.header := by
  rw [insert_eq] at h
  split at h
  · cases h
  · split at h
    · cases h
    · obtain rfl := Except.ok.inj h
      rfl

theorem header_of_setResponseFormat {l l' : Library} {name text : String}
    (h : l.setResponseFormat name text = .ok l') : l'.header = l.header := by
  rw [setResponseFormat_eq] at h
  cases hrequire : l.require name with
  | error e =>
    rw [hrequire] at h
    cases h
  | ok t =>
    rw [hrequire] at h
    cases hformat : Schema.parseFormat text with
    | error e =>
      rw [hformat] at h
      cases h
    | ok v =>
      rw [hformat] at h
      exact header_of_update h

end Library

theorem LibraryEdit.header_of_edited {e : LibraryEdit} {w : Workspace} {l : Library}
    (h : e.edited w = .ok l) : l.header = w.library.header := by
  cases e with
  | add name t =>
    rw [edited] at h
    exact Library.header_of_insert h
  | applySchema name fields title =>
    rw [edited, Library.applyOutputSchema] at h
    exact Library.header_of_update h
  | setFormat name text =>
    rw [edited] at h
    exact Library.header_of_setResponseFormat h

/-! ## Actions -/

/-- The header that a library file shows, if there is one. -/
def MemoryStore.headerAt? (s : MemoryStore) (p : Path) : Option Header :=
  (s.get? p).bind Library.headerOf?

/-- What can happen in a session, the creation of missing files included. -/
inductive Action where
  /-- Missing files are created. -/
  | init
  /-- Something else happens. -/
  | event (e : Event)

namespace Action

/-- What an action makes of the workspace and the files. Its result is not looked at. -/
def step (x : Workspace × MemoryStore) : Action → Workspace × MemoryStore
  | init => (x.1, (perform x.1.init x.2).2)
  | event e => e.step x

/-- What some actions make of the workspace and the files. -/
def run (actions : List Action) (x : Workspace × MemoryStore) : Workspace × MemoryStore :=
  actions.foldl step x

/-- The action saves the library: it is an edit or a save, and it succeeds. -/
def saves (x : Workspace × MemoryStore) : Action → Bool
  | event (.edit e) => (Session.perform e.session x.1 x.2).1.isOk
  | event .save => (perform x.1.save x.2).1.isOk
  | _ => false

/-- One of the actions saves the library. -/
def anySaves : List Action → Workspace × MemoryStore → Bool
  | [], _ => false
  | a :: actions, x => a.saves x || anySaves actions (a.step x)

/-! ## One action -/

/-- What one action can do to the loaded library and to the library file; the flag tells whether it
saves. -/
inductive Stepped (w : Workspace) (s : MemoryStore) : Bool → Workspace × MemoryStore → Prop where
  /-- A library is in the file and loaded, and its header is the one that was loaded before. -/
  | saved {l : Library} {t : MemoryStore} (hheader : l.header = w.library.header)
    (hfile : t.get? w.config.libraryFile = some l.toText) :
    Stepped w s true ({ w with library := l }, t)
  /-- The file is as it was. -/
  | kept {t : MemoryStore} (hfile : t.get? w.config.libraryFile = s.get? w.config.libraryFile) :
    Stepped w s false (w, t)
  /-- The file was missing and has been created past the loaded library. -/
  | created {t : MemoryStore} {text : String} (hmissing : s.get? w.config.libraryFile = none)
    (hfile : t.get? w.config.libraryFile = some text)
    (htext : text = Config.defaultText ∨
      text = Library.toText { header := Workspace.newHeader }) : Stepped w s false (w, t)

theorem stepped_init (w : Workspace) (s : MemoryStore) :
    Stepped w s false (w, (perform w.init s).2) := by
  obtain ⟨t, hconfig, hlibrary⟩ := w.created_init s
  obtain hu | hcreated := hlibrary
  · rw [hu]
    obtain hkept | ⟨-, hmissing, hfile⟩ := hconfig w.config.libraryFile
    · exact .kept hkept
    · exact .created hmissing hfile (.inl rfl)
  · obtain hsame | ⟨-, hmissing, hfile⟩ := hcreated w.config.libraryFile
    · obtain hkept | ⟨-, hmissing, hconfigured⟩ := hconfig w.config.libraryFile
      · exact .kept (hsame.trans hkept)
      · exact .created hmissing (hsame.trans hconfigured) (.inl rfl)
    · obtain hkept | ⟨-, -, hconfigured⟩ := hconfig w.config.libraryFile
      · exact .created (hkept.symm.trans hmissing) hfile (.inr rfl)
      · rw [hconfigured] at hmissing
        cases hmissing

theorem stepped_save {w : Workspace} {l : Library} {s t : MemoryStore} {result : Except Error Unit}
    (hr : w.rotator.Apart) (hheader : l.header = w.library.header)
    (hsaved : l.Saved w.rotator s (result, t)) :
    Stepped w s result.isOk (if result.isOk then { w with library := l } else w, t) := by
  cases hsaved with
  | failed hframe => exact .kept (hframe.files w.config.libraryFile hr)
  | done hfile => exact .saved hheader hfile

theorem stepped_step (a : Action) {w : Workspace} {s : MemoryStore} (hr : w.rotator.Apart) :
    Stepped w s (a.saves (w, s)) (a.step (w, s)) := by
  cases a with
  | init => exact stepped_init w s
  | event e =>
    cases e with
    | edit e =>
      rw [step, Event.step, saves, LibraryEdit.perform_session]
      cases hedit : e.edited w with
      | error err => exact .kept rfl
      | ok l =>
        have hsaved := l.saved_save hr s
        dsimp only
        rcases hrun : perform (l.save w.config.libraryFile w.config.maxBackups) s with ⟨r, t⟩
        rw [hrun] at hsaved
        have hstepped := stepped_save hr (LibraryEdit.header_of_edited hedit) hsaved
        cases r with
        | error err => exact hstepped
        | ok => exact hstepped
    | save =>
      have hsaved := w.library.saved_save hr s
      rw [step, Event.step, saves, Workspace.save]
      rcases hrun : perform (w.library.save w.config.libraryFile w.config.maxBackups) s with ⟨r, t⟩
      rw [hrun] at hsaved
      have hstepped := stepped_save hr rfl hsaved
      rw [ite_self] at hstepped
      exact hstepped
    | backup =>
      exact .kept ((Rotator.backed_backup hr s).frame.files w.config.libraryFile hr)
    | refuse ps => exact .kept rfl

namespace Stepped

variable {w : Workspace} {s : MemoryStore} {b : Bool} {x : Workspace × MemoryStore} {h : Header}

theorem config_eq (hx : Stepped w s b x) : x.1.config = w.config := by
  cases hx <;> rfl

theorem header_eq (hx : Stepped w s b x) : x.1.library.header = w.library.header := by
  cases hx with
  | saved hheader => exact hheader
  | kept => rfl
  | created => rfl

/-- A stored header stays, or is replaced by the loaded one. -/
theorem headerAt?_eq (hx : Stepped w s b x) (hs : s.headerAt? w.config.libraryFile = some h) :
    x.2.headerAt? w.config.libraryFile = some (if b then w.library.header else h) := by
  cases hx with
  | saved hheader hfile =>
    rw [headerAt?, hfile, Option.bind_some, Library.headerOf?_toText, hheader]
    rfl
  | kept hfile =>
    rw [headerAt?, hfile]
    exact hs
  | created hmissing =>
    rw [headerAt?, hmissing] at hs
    cases hs

theorem headerAt?_cases (hx : Stepped w s b x) (h' : x.2.headerAt? w.config.libraryFile = some h) :
    s.headerAt? w.config.libraryFile = some h ∨ h = w.library.header ∨
      h = Workspace.newHeader := by
  cases hx with
  | saved hheader hfile =>
    rw [headerAt?, hfile, Option.bind_some, Library.headerOf?_toText, hheader] at h'
    exact .inr (.inl (Option.some.inj h').symm)
  | kept hfile =>
    rw [headerAt?, hfile] at h'
    exact .inl h'
  | created hmissing hfile htext =>
    rw [headerAt?, hfile, Option.bind_some] at h'
    rcases htext with rfl | rfl
    · rw [Library.headerOf?_defaultText] at h'
      cases h'
    · rw [Library.headerOf?_toText] at h'
      exact .inr (.inr (Option.some.inj h').symm)

end Stepped

/-! ## Runs -/

theorem loaded_run (actions : List Action) {x : Workspace × MemoryStore}
    (hr : x.1.rotator.Apart) :
    (run actions x).1.config = x.1.config ∧
      (run actions x).1.library.header = x.1.library.header := by
  induction actions generalizing x with
  | nil => exact ⟨rfl, rfl⟩
  | cons a actions ih =>
    have hstep := a.stepped_step (s := x.2) hr
    have hnext : (a.step x).1.rotator.Apart := by
      rwa [Workspace.rotator, hstep.config_eq]
    obtain ⟨hconfig, hheader⟩ := ih hnext
    exact ⟨hconfig.trans hstep.config_eq, hheader.trans hstep.header_eq⟩

/-- Any number of actions leave a stored header as it is, or replace it by the loaded one. -/
theorem headerAt?_run (actions : List Action) {x : Workspace × MemoryStore} {h : Header}
    (hr : x.1.rotator.Apart) (hx : x.2.headerAt? x.1.config.libraryFile = some h) :
    (run actions x).2.headerAt? x.1.config.libraryFile =
      some (if anySaves actions x then x.1.library.header else h) := by
  induction actions generalizing x h with
  | nil => exact hx
  | cons a actions ih =>
    have hstep := a.stepped_step (s := x.2) hr
    have hnext : (a.step x).1.rotator.Apart := by
      rwa [Workspace.rotator, hstep.config_eq]
    have hstored := hstep.headerAt?_eq hx
    rw [← hstep.config_eq] at hstored
    have hrest := ih hnext hstored
    rw [hstep.config_eq, hstep.header_eq] at hrest
    refine hrest.trans ?_
    -- the loaded header is the same throughout, so it does not matter which of them saves
    rw [anySaves]
    cases a.saves x <;> cases anySaves actions (a.step x) <;> rfl

theorem headerAt?_run_cases (actions : List Action) {x : Workspace × MemoryStore} {h : Header}
    (hr : x.1.rotator.Apart) (hrun : (run actions x).2.headerAt? x.1.config.libraryFile = some h) :
    x.2.headerAt? x.1.config.libraryFile = some h ∨ h = x.1.library.header ∨
      h = Workspace.newHeader := by
  induction actions generalizing x with
  | nil => exact .inl hrun
  | cons a actions ih =>
    have hstep := a.stepped_step (s := x.2) hr
    have hnext : (a.step x).1.rotator.Apart := by
      rwa [Workspace.rotator, hstep.config_eq]
    rw [← hstep.config_eq] at hrun
    rcases ih hnext hrun with hstored | hheader | hnew
    · rw [hstep.config_eq] at hstored
      exact hstep.headerAt?_cases hstored
    · exact .inr (.inl (hheader.trans hstep.header_eq))
    · exact .inr (.inr hnew)

/-! ## Workspaces that were opened -/

/-- A workspace that goes with its file either shows the header of the file or has found none. -/
theorem headerAt?_of_inFile {l : Library} {p : Path} {s : MemoryStore} (h : InFile l p s) :
    s.has p = false ∧ l = {} ∨ s.headerAt? p = some l.header := by
  cases h with
  | absent hfile hempty => exact .inl ⟨hfile, hempty⟩
  | read hfile hread =>
    right
    rw [headerAt?, hfile, Option.bind_some, Library.headerOf?_of_ofText hread]
  | written hfile =>
    right
    rw [headerAt?, hfile, Option.bind_some, Library.headerOf?_toText]

/-- **What becomes of a stored header.** It stays until the library is saved, and then the header of
the loaded library takes its place. The two are the same unless the workspace was opened without a
library file and the file was created past the loaded library. The library file must not have the
name of one of its own slots: then a plain backup moves it away, and its header with it. -/
theorem headerAt?_later {config : Config} {w : Workspace} {s t : MemoryStore} {h : Header}
    (before later : List Action)
    (hr : (Rotator.mk config.libraryFile config.maxBackups).Apart)
    (hopen : perform (Workspace.ofConfig config) s = (.ok w, t)) :
    let x := run before (w, t)
    x.2.headerAt? config.libraryFile = some h →
      (run later x).2.headerAt? config.libraryFile =
          some (if anySaves later x then w.library.header else h) ∧
        (h ≠ w.library.header → t.has config.libraryFile = false ∧ w.library = {} ∧
          h = Workspace.newHeader) := by
  intro x hx
  obtain ⟨rfl, -, hfile⟩ := synced_ofConfig hopen
  have hr' : w.rotator.Apart := hr
  obtain ⟨hconfig, hheader⟩ := loaded_run before (x := (w, t)) hr'
  have hlater := headerAt?_run later (x := x) (h := h)
  rw [Workspace.rotator, hconfig, hheader] at hlater
  refine ⟨hlater hr' hx, fun hne ↦ ?_⟩
  rcases headerAt?_of_inFile hfile with ⟨hhas, hempty⟩ | hstored
  · rcases headerAt?_run_cases before (x := (w, t)) hr' hx with hold | hloaded | hnew
    · rw [headerAt?, get?_of_not_has hhas, Option.bind_none] at hold
      cases hold
    · exact absurd hloaded hne
    · exact ⟨hhas, hempty, hnew⟩
  · -- the file showed the loaded header from the beginning
    have hbefore := headerAt?_run before (x := (w, t)) hr' hstored
    rw [ite_self] at hbefore
    exact absurd (Option.some.inj (hx.symm.trans hbefore)) hne

/-- A header that was created is kept through a backup, and lost with the first edit. -/
theorem headerAt?_later_created :
    let config := Config.new ⟨"/lib"⟩
    let x := run [init] ({ config }, {})
    let later : List Action := [.event .backup, .event (.edit (.add "greeting" {}))]
    perform (Workspace.ofConfig config) ({} : MemoryStore) = (.ok { config }, {}) ∧
      x.2.headerAt? config.libraryFile = some Workspace.newHeader ∧
      (run [.event .backup] x).2.headerAt? config.libraryFile = some Workspace.newHeader ∧
      (run later x).2.headerAt? config.libraryFile = some {} := by
  intro config x later
  have hr : (Rotator.mk config.libraryFile config.maxBackups).Apart := by
    unfold Rotator.Apart
    decide +kernel
  have hopen : perform (Workspace.ofConfig config) ({} : MemoryStore) =
      (.ok { config }, {}) := rfl
  have hfile : x.2.get? config.libraryFile =
      some (Library.toText { header := Workspace.newHeader }) := by
    decide +kernel
  have hcreated : x.2.headerAt? config.libraryFile = some Workspace.newHeader := by
    rw [headerAt?, hfile, Option.bind_some, Library.headerOf?_toText]
  have hkept : anySaves [.event .backup] x = false := by decide +kernel
  have hsaved : anySaves later x = true := by decide +kernel
  have hbackup := (headerAt?_later [init] [.event .backup] hr hopen hcreated).1
  have hedit := (headerAt?_later [init] later hr hopen hcreated).1
  rw [hkept] at hbackup
  rw [hsaved] at hedit
  exact ⟨hopen, hcreated, hbackup, hedit⟩

/-- The header that was created is not the one that is stored after the next save. -/
theorem not_headerAt?_run_of_created :
    let config := Config.new ⟨"/lib"⟩
    let w : Workspace := { config }
    perform (Workspace.ofConfig config) ({} : MemoryStore) = (.ok w, {}) ∧
      (run [init] (w, {})).2.headerAt? config.libraryFile = some Workspace.newHeader ∧
      ¬(run [init, .event .save] (w, {})).2.headerAt? config.libraryFile =
        some Workspace.newHeader := by
  intro config w
  have hcreated : (run [init] (w, {})).2.get? config.libraryFile =
      some (Library.toText { header := Workspace.newHeader }) := by
    decide +kernel
  have hsaved : (run [init, .event .save] (w, {})).2.get? config.libraryFile =
      some (Library.toText {}) := by
    decide +kernel
  refine ⟨rfl, ?_, ?_⟩
  · rw [headerAt?, hcreated, Option.bind_some, Library.headerOf?_toText]
  · rw [headerAt?, hsaved, Option.bind_some, Library.headerOf?_toText]
    decide

end Action

end PromptLibrary
