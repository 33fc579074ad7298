import PromptLibrary.Proofs.Run
import PromptLibrary.Store.Memory

/-!
# System prompts of runs

A template selects a system template by two of its attributes: the name, which must be a text that
is not empty, and the flag among the provider's parameters, which must be the truth value true.
`Template.Selects` says this of the attributes as they are; any other value in one of the places, or
none, selects nothing.

The run of a template that selects one has its prompt, and is refused if there is no system template
of that name. Every other run has the template's own system prompt or the default
(`systemPrompt_prepared`). Nothing of the selection reaches the request but the flag.
-/

namespace PromptLibrary

open Placeholder

/-! ## Parts of values -/

namespace Json

@[simp] theorem string?_eq_some_iff {v : Json} {s : String} :
    v.string? = some s ↔ v = .string s := by
  cases v <;> simp [string?]

@[simp] theorem bool?_eq_some_iff {v : Json} {b : Bool} : v.bool? = some b ↔ v = .bool b := by
  cases v <;> simp [bool?]

theorem get?_eq_some_iff {v w : Json} {k : String} :
    v.get? k = some w ↔ ∃ es, v = .object es ∧ Entries.get? es k = some w := by
  cases v <;> simp [get?]

end Json

/-! ## Selecting -/

namespace Template

variable {t : Template}

/-- The attributes name a system template, and the provider's parameters let this count. -/
structure Selects (t : Template) (selected : String) : Prop where
  /-- The flag is set. -/
  flag : ∃ parameters, Entries.get? t.attributes providerParametersKey = some (.object parameters) ∧
    Entries.get? parameters selectionFlagKey = some (.bool true)
  /-- The name is given as a text. -/
  name : Entries.get? t.attributes selectionKey = some (.string selected)
  /-- The name is not empty. -/
  nonempty : selected ≠ ""

theorem allowsSelection_iff : t.allowsSelection = true ↔
    ∃ parameters, Entries.get? t.attributes providerParametersKey = some (.object parameters) ∧
      Entries.get? parameters selectionFlagKey = some (.bool true) := by
  rw [allowsSelection, Option.getD_eq_iff]
  simp [Option.bind_eq_some_iff, Json.get?_eq_some_iff]

theorem selection?_eq_some_iff {selected : String} :
    t.selection? = some selected ↔ t.Selects selected := by
  have hname : (Entries.get? t.attributes selectionKey).bind Json.string? = some selected ↔
      Entries.get? t.attributes selectionKey = some (.string selected) := by
    simp [Option.bind_eq_some_iff]
  rw [selection?]
  split
  · rename_i hallowed
    rw [Option.filter_eq_some_iff, hname, decide_eq_true_eq]
    exact ⟨fun ⟨hname, hne⟩ ↦ ⟨allowsSelection_iff.mp hallowed, hname, hne⟩,
      fun h ↦ ⟨h.name, h.nonempty⟩⟩
  · rename_i hrefused
    exact ⟨nofun, fun h ↦ absurd (allowsSelection_iff.mpr h.flag) hrefused⟩

end Template

/-! ## The system prompt of a plan -/

/-- The system prompt that a run of a template should have. -/
structure Library.RightPrompt (l : Library) (t : Template) (default text : String) : Prop where
  /-- The prompt of the system template that is selected. -/
  selected : ∀ selected, t.Selects selected → ∃ u, l.get? selected = some u ∧ u.role = .system ∧
    text = u.promptText
  /-- Otherwise the template's own, if it is to be used. -/
  own : (∀ selected, ¬t.Selects selected) → t.ownSystemPrompt = true → text = t.systemText
  /-- Otherwise the default. -/
  default : (∀ selected, ¬t.Selects selected) → t.ownSystemPrompt = false → text = default

section Plans

variable {l : Library} {catalog : ModelCatalog} {request : RunRequest} {name : String}
  {t : Template}

theorem rightPrompt_of_systemPrompt {default text : String}
    (h : l.systemPrompt t default = .ok text) : l.RightPrompt t default text := by
  rw [Library.systemPrompt] at h
  cases hselected : t.selection? with
  | none =>
    have hnone : ∀ selected, ¬t.Selects selected := by
      intro selected hselects
      rw [Template.selection?_eq_some_iff.mpr hselects] at hselected
      cases hselected
    rw [hselected] at h
    have htext := (Except.ok.inj h).symm
    refine ⟨fun selected hselects ↦ absurd hselects (hnone selected), fun _ hown ↦ ?_,
      fun _ hown ↦ ?_⟩
    · rw [htext, if_pos hown]
    · rw [htext, if_neg (by simp [hown])]
  | some selected =>
    have hselects := Template.selection?_eq_some_iff.mp hselected
    rw [hselected] at h
    dsimp only at h
    split at h
    · rename_i u hu
      obtain ⟨hget, hsystem⟩ := Option.filter_eq_some_iff.mp hu
      refine ⟨fun selected' hselects' ↦ ?_, fun hnone ↦ absurd hselects (hnone selected),
        fun hnone ↦ absurd hselects (hnone selected)⟩
      obtain rfl : selected = selected' := by
        have hname := hselects.name.symm.trans hselects'.name
        simpa using hname
      exact ⟨u, hget, Template.isSystem_iff.mp hsystem, (Except.ok.inj h).symm⟩
    · cases h

theorem plan_of_admitted {p : RunPlan} (ht : l.get? name = some t)
    (h : Admitted l catalog request t) (hplan : planRun l catalog request name = .ok p) :
    l.systemPrompt t request.systemPrompt = .ok p.systemPrompt ∧
      p.attributes = t.requestAttributes := by
  obtain ⟨systemPrompt, hsystem⟩ := exists_systemPrompt h.selection request.systemPrompt
  rw [planRun_of_user ht h.user, hsystem, checkFormat_of_allowed h.format] at hplan
  obtain rfl := Except.ok.inj hplan
  exact ⟨hsystem, rfl⟩

end Plans

/-! ## The system prompt of a request -/

section Results

variable {σ : Type} [FileStore (StateM σ)] (registry : LoaderRegistry) (l : Library)
  (catalog : ModelCatalog) (request : RunRequest) (provider : Provider (StateM σ)) (name : String)
  (s : σ)

variable {l catalog request name} in
theorem exists_plan_of_ready {p : PreparedPrompt}
    (h : (prepared registry l catalog request provider name s).1 = .ok (.ready p)) :
    ∃ plan, planRun l catalog request name = .ok plan ∧ p.systemPrompt = plan.systemPrompt ∧
      p.attributes = plan.attributes := by
  cases hplan : planRun l catalog request name with
  | error e =>
    rw [prepared, perform, prepareRun, hplan] at h
    cases h
  | ok plan =>
    refine ⟨plan, rfl, ?_⟩
    rw [prepared, perform, run_prepareRun_of_plan hplan, StateT.run_bind] at h
    rcases hresolved : StateT.run (resolve registry provider plan.promptText) s with ⟨r, s'⟩
    rw [hresolved] at h
    rcases r with reason | text | text
    all_goals cases h
    exact ⟨rfl, rfl⟩

/-- **The system prompt of a run.** A run that is ready has the prompt of the system template that
it selects, and this is there; if it selects none it has the template's own system prompt or the
default. Its request has all attributes of the template but the two for the selection. A run is
refused for a system template exactly if it selects one that is not there. -/
theorem systemPrompt_prepared
    (h : ∀ t, l.get? name = some t → (Entries.keys t.attributes).Nodup) :
    (∀ p, (prepared registry l catalog request provider name s).1 = .ok (.ready p) →
      ∃ t, l.get? name = some t ∧ l.RightPrompt t request.systemPrompt p.systemPrompt ∧
        ∀ k, Entries.get? p.attributes k =
          if k = systemPromptKey ∨ k = selectionKey then none else Entries.get? t.attributes k) ∧
    ∀ selected, (prepared registry l catalog request provider name s).1 =
        .error (.invalidSystemPrompt selected) ↔
      ∃ t, l.get? name = some t ∧ t.role = .user ∧ t.Selects selected ∧
        ∀ u, l.get? selected = some u → u.role ≠ .system := by
  refine ⟨fun p hready ↦ ?_, fun selected ↦ ⟨fun hresult ↦ ?_, ?_⟩⟩
  · obtain ⟨plan, hplan, hsystem, hattributes⟩ := exists_plan_of_ready registry provider s hready
    rcases admitted_or_refused l catalog request name with ⟨t, ht, hadmitted⟩ | ⟨e, hrefused⟩
    · obtain ⟨hprompt, hrequest⟩ := plan_of_admitted ht hadmitted hplan
      refine ⟨t, ht, hsystem ▸ rightPrompt_of_systemPrompt hprompt, fun k ↦ ?_⟩
      rw [hattributes, hrequest, Template.get?_requestAttributes (h t ht)]
    · rw [planRun_of_refused hrefused] at hplan
      cases hplan
  · rcases prepared_cases registry l catalog request provider name s with
      ⟨e, hrefused, hprepared⟩ | ⟨t, -, -, hended⟩
    · rw [hprepared] at hresult
      obtain rfl := Except.error.inj hresult
      cases hrefused with
      | selection ht hrole hselected hnone =>
        exact ⟨_, ht, hrole, Template.selection?_eq_some_iff.mp hselected, hnone⟩
    · rw [hresult] at hended
      cases hended
  · rintro ⟨t, ht, hrole, hselects, hnone⟩
    have hrefused : Refused l catalog request name (.invalidSystemPrompt selected) :=
      .selection ht hrole (Template.selection?_eq_some_iff.mpr hselects) hnone
    rw [prepared_of_refused registry provider s hrefused]

end Results

/-- The same template is run three times: in a library with the system template that it selects, in
one where a user template has the name, and with a flag that is the text true. The last removed
attribute stands between two others. -/
theorem systemPrompt_prepared_flags :
    let flagged (flag : Json) : Template :=
      { ownSystemPrompt := true, systemText := "Be kind."
        attributes := [("system_prompt", .string "leaked"),
          ("venice_parameters", .object [("include_venice_system_prompt", flag)]),
          ("custom_system_prompt_name", .string "pirate"), ("top_p", .null)] }
    let library (flag : Json) (role : Role) : Library :=
      { templates := [("t", flagged flag), ("pirate", { promptText := "Arr.", role })] }
    let run (flag : Json) (role : Role) : Except Error RunOutcome :=
      (prepared .standard (library flag role) {} ⟨.chat, "m", "default"⟩
        (Provider.always .cancelled) "t" ({} : MemoryStore)).1
    (∃ p, run (.bool true) .system = .ok (.ready p) ∧ p.systemPrompt = "Arr." ∧
      Entries.get? p.attributes "custom_system_prompt_name" = none) ∧
    run (.bool true) .user = .error (.invalidSystemPrompt "pirate") ∧
    ∃ p, run (.string "true") .user = .ok (.ready p) ∧ p.systemPrompt = "Be kind." ∧
      Entries.get? p.attributes "top_p" = some .null := by
  intro flagged library run
  have ht (flag : Json) (role : Role) : (library flag role).get? "t" = some (flagged flag) := rfl
  have hdistinct (flag : Json) (role : Role) :
      ∀ t, (library flag role).get? "t" = some t → (Entries.keys t.attributes).Nodup := by
    intro t hget
    cases hget
    have hkeys : Entries.keys (flagged flag).attributes = ["system_prompt", "venice_parameters",
      "custom_system_prompt_name", "top_p"] := rfl
    exact hkeys ▸ by decide
  have hselects : (flagged (.bool true)).Selects "pirate" := ⟨⟨_, rfl, rfl⟩, rfl, by decide⟩
  have hnone : ∀ selected, ¬(flagged (.string "true")).Selects selected := by
    rintro selected ⟨⟨parameters, hparameters, hflag⟩, -, -⟩
    cases hparameters
    cases hflag
  have hready (flag : Json) (role : Role) (hfound : (library flag role).SelectionFound
      (flagged flag)) : ∃ p, run flag role = .ok (.ready p) := by
    have hadmitted : Admitted (library flag role) {} ⟨.chat, "m", "default"⟩ (flagged flag) :=
      ⟨rfl, hfound, fun hformat ↦ absurd rfl hformat⟩
    have hnames : (scan (stripOutput "")).needValues = false := by decide
    obtain ⟨systemPrompt, hprepared⟩ := prepared_of_no_names .standard (Provider.always .cancelled)
      ({} : MemoryStore) (ht flag role) hadmitted hnames
    exact ⟨_, congrArg Prod.fst hprepared⟩
  have hprompt (flag : Json) (role : Role) := systemPrompt_prepared .standard (library flag role) {}
    ⟨.chat, "m", "default"⟩ (Provider.always .cancelled) "t" ({} : MemoryStore)
    (hdistinct flag role)
  refine ⟨?_, ?_, ?_⟩
  · obtain ⟨p, hp⟩ := hready (.bool true) .system fun selected hselected ↦ by
      cases (Template.selection?_eq_some_iff.mp hselected).name
      exact ⟨_, rfl, rfl⟩
    obtain ⟨t, hget, hright, hattributes⟩ := (hprompt _ _).1 p hp
    cases hget
    obtain ⟨u, hu, -, htext⟩ := hright.selected _ hselects
    cases hu
    exact ⟨p, hp, htext, hattributes _⟩
  · refine ((hprompt _ _).2 _).mpr ⟨_, rfl, rfl, hselects, fun u hu ↦ ?_⟩
    cases hu
    decide
  · obtain ⟨p, hp⟩ := hready (.string "true") .user fun selected hselected ↦
      absurd (Template.selection?_eq_some_iff.mp hselected) (hnone selected)
    obtain ⟨t, hget, hright, hattributes⟩ := (hprompt _ _).1 p hp
    cases hget
    exact ⟨p, hp, hright.own hnone rfl, hattributes _⟩

end PromptLibrary
