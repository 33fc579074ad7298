import PromptLibrary.Proofs.Library.OutputSchema
import PromptLibrary.Proofs.Store.Memory
import PromptLibrary.Run

/-!
# Which runs have a plan

A run is checked in a fixed order before anybody is asked for values: the template must be there, it
must not be a system template, the system template that it selects must be there, and its response
format must fit the mode and the model. `Admitted` says that all of this holds, and `Refused` which
error is reported if it does not, namely that of the first check that fails. Every run is one or the
other (`admitted_or_refused`), so what `planRun` does is known in every case.

A run that has no plan has no effect at all (`run_prepareRun_of_refused`). One that has a plan is
ready at once if there is nothing to fill in (`run_prepareRun_of_no_names`), and otherwise asks the
provider and then does what the answer says (`run_prepareRun_of_names`).
-/

namespace PromptLibrary

open Placeholder

/-! ## Checks -/

@[simp] theorem Template.isSystem_iff {t : Template} : t.isSystem = true ↔ t.role = .system :=
  decide_eq_true_iff

/-- If the template selects a system template, this is there and is one. -/
def Library.SelectionFound (l : Library) (t : Template) : Prop :=
  ∀ name, t.selection? = some name → ∃ selected, l.get? name = some selected ∧
    selected.role = .system

/-- A response format of the template can be honoured. -/
def FormatAllowed (catalog : ModelCatalog) (request : RunRequest) (t : Template) : Prop :=
  t.responseFormat ≠ none → request.mode = .question ∧
    ∃ info, catalog.get? request.model = some info ∧ info.responseSchema = true

/-- A template that can be run as it is requested. -/
structure Admitted (l : Library) (catalog : ModelCatalog) (request : RunRequest)
    (t : Template) : Prop where
  /-- The template is not a system prompt. -/
  user : t.role = .user
  /-- The selected system template is there. -/
  selection : l.SelectionFound t
  /-- The response format can be honoured. -/
  format : FormatAllowed catalog request t

theorem Admitted.plain {l : Library} {catalog : ModelCatalog} {request : RunRequest} {t : Template}
    (hrole : t.role = .user) (hselection : t.selection? = none)
    (hformat : t.responseFormat = none) : Admitted l catalog request t := by
  refine ⟨hrole, fun name hname ↦ ?_, fun hpresent ↦ absurd hformat hpresent⟩
  rw [hselection] at hname
  cases hname

/-- The error of a run that cannot go ahead: that of the first check that fails. -/
inductive Refused (l : Library) (catalog : ModelCatalog) (request : RunRequest) (name : String) :
    Error → Prop where
  /-- There is no such template. -/
  | notFound (h : l.get? name = none) : Refused l catalog request name (.templateNotFound name)
  /-- The template is a system prompt. -/
  | system {t : Template} (h : l.get? name = some t) (hrole : t.role = .system) :
    Refused l catalog request name (.systemPromptNotRunnable name)
  /-- What is selected as a system template is not there, or is none. -/
  | selection {t : Template} {selected : String} (h : l.get? name = some t)
    (hrole : t.role = .user) (hselected : t.selection? = some selected)
    (hnone : ∀ s, l.get? selected = some s → s.role ≠ .system) :
    Refused l catalog request name (.invalidSystemPrompt selected)
  /-- There is a response format, and the run is a conversation. -/
  | chat {t : Template} (h : l.get? name = some t) (hrole : t.role = .user)
    (hselection : l.SelectionFound t) (hformat : t.responseFormat ≠ none)
    (hmode : request.mode = .chat) : Refused l catalog request name .chatWithResponseFormat
  /-- There is a response format, and the model is not known to honour it. -/
  | model {t : Template} (h : l.get? name = some t) (hrole : t.role = .user)
    (hselection : l.SelectionFound t) (hformat : t.responseFormat ≠ none)
    (hmode : request.mode = .question)
    (hmodel : ∀ info, catalog.get? request.model = some info → info.responseSchema = false) :
    Refused l catalog request name (.modelLacksResponseSchema request.model)

section Plans

variable {l : Library} {catalog : ModelCatalog} {request : RunRequest} {name : String}
  {t : Template}

theorem supportsResponseSchema_iff {model : String} :
    catalog.supportsResponseSchema model = true ↔
      ∃ info, catalog.get? model = some info ∧ info.responseSchema = true := by
  rw [ModelCatalog.supportsResponseSchema, Option.any_eq_true]

theorem admitted_or_refused (l : Library) (catalog : ModelCatalog) (request : RunRequest)
    (name : String) :
    (∃ t, l.get? name = some t ∧ Admitted l catalog request t) ∨
      ∃ e, Refused l catalog request name e := by
  cases ht : l.get? name with
  | none => exact .inr ⟨_, .notFound ht⟩
  | some t =>
    cases hrole : t.role with
    | system => exact .inr ⟨_, .system ht hrole⟩
    | user =>
      by_cases hselection : l.SelectionFound t
      · by_cases hformat : FormatAllowed catalog request t
        · exact .inl ⟨t, rfl, hrole, hselection, hformat⟩
        · obtain ⟨hpresent, hrefused⟩ := Classical.not_imp.mp hformat
          cases hmode : request.mode with
          | chat => exact .inr ⟨_, .chat ht hrole hselection hpresent hmode⟩
          | question =>
            refine .inr ⟨_, .model ht hrole hselection hpresent hmode fun info hinfo ↦ ?_⟩
            rw [← Bool.not_eq_true]
            exact fun hsupports ↦ hrefused ⟨hmode, info, hinfo, hsupports⟩
      · obtain ⟨selected, hselected⟩ := not_forall.mp hselection
        obtain ⟨hselected, hnone⟩ := Classical.not_imp.mp hselected
        refine .inr ⟨_, .selection ht hrole hselected fun s hs hsystem ↦ hnone ⟨s, hs, hsystem⟩⟩

/-! ## Attributes of requests -/

theorem Template.get?_requestAttributes (h : (Entries.keys t.attributes).Nodup) (k : String) :
    Entries.get? t.requestAttributes k =
      if k = systemPromptKey ∨ k = selectionKey then none else Entries.get? t.attributes k := by
  have hrest := Entries.nodup_keys_swapErase systemPromptKey h
  rw [requestAttributes]
  by_cases hselection : k = selectionKey
  · rw [if_pos (.inr hselection), hselection, Entries.get?_swapErase_self _ hrest]
  · rw [Entries.get?_swapErase_of_ne hrest hselection]
    by_cases hsystem : k = systemPromptKey
    · rw [if_pos (.inl hsystem), hsystem, Entries.get?_swapErase_self _ h]
    · rw [if_neg (not_or.mpr ⟨hsystem, hselection⟩), Entries.get?_swapErase_of_ne h hsystem]

/-! ## Plans -/

theorem exists_systemPrompt (h : l.SelectionFound t) (default : String) :
    ∃ text, l.systemPrompt t default = .ok text := by
  rw [Library.systemPrompt]
  cases hselected : t.selection? with
  | none => exact ⟨_, rfl⟩
  | some name =>
    obtain ⟨selected, hget, hsystem⟩ := h name hselected
    refine ⟨selected.promptText, ?_⟩
    simp [hget, Option.filter, hsystem]

theorem systemPrompt_of_not_found {selected : String} (hselected : t.selection? = some selected)
    (hnone : ∀ s, l.get? selected = some s → s.role ≠ .system) (default : String) :
    l.systemPrompt t default = .error (.invalidSystemPrompt selected) := by
  have hfilter : (l.get? selected).filter (·.isSystem) = none := by
    rw [Option.filter_eq_none_iff]
    intro s hs
    simpa using hnone s hs
  rw [Library.systemPrompt, hselected]
  dsimp only
  rw [hfilter]

theorem checkFormat_of_allowed (h : FormatAllowed catalog request t) :
    checkFormat catalog request t = .ok () := by
  rw [checkFormat]
  by_cases hformat : t.responseFormat = none
  · simp [hformat]
  · obtain ⟨hmode, hmodel⟩ := h hformat
    have hsupports := supportsResponseSchema_iff.mpr hmodel
    simp [hmode, hsupports]

theorem planRun_of_user (ht : l.get? name = some t) (hrole : t.role = .user) :
    planRun l catalog request name = (do
      let systemPrompt ← l.systemPrompt t request.systemPrompt
      checkFormat catalog request t
      return ⟨systemPrompt, stripOutput t.promptText, t.requestAttributes⟩) := by
  rw [planRun, Library.require_of_get? ht]
  simp [hrole, bind, Except.bind, pure, Except.pure]

theorem planRun_of_admitted (ht : l.get? name = some t) (h : Admitted l catalog request t) :
    ∃ systemPrompt, planRun l catalog request name =
      .ok ⟨systemPrompt, stripOutput t.promptText, t.requestAttributes⟩ := by
  obtain ⟨systemPrompt, hsystem⟩ := exists_systemPrompt h.selection request.systemPrompt
  refine ⟨systemPrompt, ?_⟩
  rw [planRun_of_user ht h.user, hsystem, checkFormat_of_allowed h.format]
  rfl

theorem planRun_of_refused {e : Error} (h : Refused l catalog request name e) :
    planRun l catalog request name = .error e := by
  cases h with
  | notFound h =>
    rw [planRun, Library.require, h]
    rfl
  | system h hrole =>
    rw [planRun, Library.require_of_get? h]
    simp [hrole, bind, Except.bind, throw, throwThe, MonadExceptOf.throw]
  | selection h hrole hselected hnone =>
    rw [planRun_of_user h hrole, systemPrompt_of_not_found hselected hnone]
    rfl
  | chat h hrole hselection hformat hmode =>
    obtain ⟨systemPrompt, hsystem⟩ := exists_systemPrompt hselection request.systemPrompt
    rw [planRun_of_user h hrole, hsystem, checkFormat, if_neg (by simpa using hformat),
      if_pos hmode]
    rfl
  | model h hrole hselection hformat hmode hmodel =>
    obtain ⟨systemPrompt, hsystem⟩ := exists_systemPrompt hselection request.systemPrompt
    have hsupports : catalog.supportsResponseSchema request.model ≠ true := by
      rw [ne_eq, supportsResponseSchema_iff]
      rintro ⟨info, hinfo, htrue⟩
      rw [hmodel info hinfo] at htrue
      cases htrue
    rw [planRun_of_user h hrole, hsystem, checkFormat, if_neg (by simpa using hformat),
      if_neg (by simp [hmode]), if_neg hsupports]
    rfl

theorem Admitted.not_refused (h : Admitted l catalog request t) (ht : l.get? name = some t)
    (e : Error) : ¬Refused l catalog request name e := by
  intro hrefused
  obtain ⟨systemPrompt, hplan⟩ := planRun_of_admitted ht h
  rw [planRun_of_refused hrefused] at hplan
  cases hplan

end Plans

/-! ## Preparing -/

section Preparing

variable {m : Type → Type} [Monad m] [FileStore m]

/-- What becomes of a plan when the provider has answered. -/
def RunPlan.answered (p : RunPlan) (registry : LoaderRegistry) (request : RunRequest)
    (name : String) : Except String Answer → m (Except Error RunOutcome)
  | .error reason => pure (.error (.providerFailed reason))
  | .ok .cancelled => pure (.ok (p.outcome request name (.cancelled p.promptText)))
  | .ok (.values values) => do
    let text ← fill registry (scan p.promptText) values p.promptText
    return .ok (p.outcome request name (.resolved text))

variable [LawfulMonad m] {registry : LoaderRegistry} {l : Library} {catalog : ModelCatalog}
  {request : RunRequest} {provider : Provider m} {name : String} {p : RunPlan}

theorem run_prepareRun_of_refused {e : Error} (h : Refused l catalog request name e) :
    (prepareRun registry l catalog request provider name).run = pure (.error e) := by
  rw [prepareRun, planRun_of_refused h, ExceptT.run_bind]
  exact pure_bind _ _

theorem run_prepareRun_of_plan (h : planRun l catalog request name = .ok p) :
    (prepareRun registry l catalog request provider name).run =
      resolve registry provider p.promptText >>= fun r ↦
        pure ((r.mapError Error.providerFailed).map (p.outcome request name)) := by
  rw [prepareRun, h, ExceptT.run_bind]
  refine (pure_bind _ _).trans ?_
  change (ExceptT.adapt Error.providerFailed _ >>= _ : ExceptT Error m RunOutcome).run = _
  rw [ExceptT.run_bind]
  change (Except.mapError Error.providerFailed <$> resolve registry provider p.promptText) >>= _ = _
  rw [bind_map_left]
  refine bind_congr fun r ↦ ?_
  cases r <;> rfl

theorem run_prepareRun_of_no_names (h : planRun l catalog request name = .ok p)
    (hnames : (scan p.promptText).needValues = false) :
    (prepareRun registry l catalog request provider name).run =
      pure (.ok (p.outcome request name (.resolved p.promptText))) := by
  have hresolve : resolve registry provider p.promptText =
      pure (.ok (.resolved p.promptText)) := by
    rw [resolve]
    simp [hnames]
  rw [run_prepareRun_of_plan h, hresolve, pure_bind]
  rfl

theorem run_prepareRun_of_names (h : planRun l catalog request name = .ok p)
    (hnames : (scan p.promptText).needValues = true) :
    (prepareRun registry l catalog request provider name).run =
      provider (scan p.promptText).text (scan p.promptText).file >>=
        p.answered registry request name := by
  rw [run_prepareRun_of_plan h, resolve]
  simp only [hnames, Bool.not_true, Bool.false_eq_true, if_false, bind_assoc]
  refine bind_congr fun answer ↦ ?_
  rcases answer with reason | answer
  · exact pure_bind _ _
  · cases answer with
    | cancelled => exact pure_bind _ _
    | values values =>
      change (fill registry _ values _ >>= fun text ↦ _) >>= _ = _
      rw [bind_assoc]
      exact bind_congr fun text ↦ pure_bind _ _

end Preparing

/-! ## Results

The state may be anything: the files, a terminal, or what a provider remembers. -/

section Results

variable {σ : Type} [FileStore (StateM σ)]

/-- The result of preparing a run, and the state that it leaves. -/
def prepared (registry : LoaderRegistry) (l : Library) (catalog : ModelCatalog)
    (request : RunRequest) (provider : Provider (StateM σ)) (name : String) (s : σ) :
    Except Error RunOutcome × σ :=
  perform (prepareRun registry l catalog request provider name) s

variable (registry : LoaderRegistry) (l : Library) (catalog : ModelCatalog) (request : RunRequest)
  (provider : Provider (StateM σ)) (name : String) (s : σ)

variable {l catalog request name} in
theorem prepared_of_refused {e : Error} (h : Refused l catalog request name e) :
    prepared registry l catalog request provider name s = (.error e, s) := by
  rw [prepared, perform, run_prepareRun_of_refused h]
  rfl

variable {l catalog request name} in
theorem prepared_of_no_names {t : Template} (ht : l.get? name = some t)
    (h : Admitted l catalog request t)
    (hnames : (scan (stripOutput t.promptText)).needValues = false) :
    ∃ systemPrompt, prepared registry l catalog request provider name s =
      (.ok (.ready ⟨name, request.model, request.mode, systemPrompt, stripOutput t.promptText,
        t.requestAttributes⟩), s) := by
  obtain ⟨systemPrompt, hplan⟩ := planRun_of_admitted ht h
  refine ⟨systemPrompt, ?_⟩
  rw [prepared, perform, run_prepareRun_of_no_names hplan hnames]
  rfl

variable {l catalog request name} in
theorem prepared_of_names {t : Template} (ht : l.get? name = some t)
    (h : Admitted l catalog request t)
    (hnames : (scan (stripOutput t.promptText)).needValues = true)
    {answer : Except String Answer} {s' : σ}
    (hanswer : (provider (scan (stripOutput t.promptText)).text
      (scan (stripOutput t.promptText)).file).run s = (answer, s')) :
    ∃ systemPrompt, prepared registry l catalog request provider name s =
      (RunPlan.answered ⟨systemPrompt, stripOutput t.promptText, t.requestAttributes⟩ registry
        request name answer : StateM σ _).run s' := by
  obtain ⟨systemPrompt, hplan⟩ := planRun_of_admitted ht h
  refine ⟨systemPrompt, ?_⟩
  rw [prepared, perform, run_prepareRun_of_names hplan hnames, StateT.run_bind, hanswer]
  rfl

/-- How a run of an admitted template can end. -/
inductive Ended (t : Template) : Except Error RunOutcome → Prop where
  /-- The provider failed. -/
  | failed (reason : String) : Ended t (.error (.providerFailed reason))
  /-- The request for values was dismissed. -/
  | cancelled : Ended t (.ok (.cancelled name (stripOutput t.promptText)))
  /-- The run is ready. -/
  | ready (systemPrompt text : String) : Ended t
    (.ok (.ready ⟨name, request.model, request.mode, systemPrompt, text, t.requestAttributes⟩))

theorem ended_answered {t : Template} (systemPrompt : String) (answer : Except String Answer) :
    Ended request name t ((RunPlan.answered ⟨systemPrompt, stripOutput t.promptText,
      t.requestAttributes⟩ registry request name answer : StateM σ _).run s).1 := by
  rcases answer with reason | answer
  · exact .failed reason
  · cases answer with
    | cancelled => exact .cancelled
    | values values =>
      rw [RunPlan.answered, StateT.run_bind]
      generalize (fill registry _ values _ : StateM σ String).run s = filled
      exact .ready systemPrompt filled.1

/-- A run is refused, or it is admitted and ends in one of three ways. -/
theorem prepared_cases :
    (∃ e, Refused l catalog request name e ∧
        prepared registry l catalog request provider name s = (.error e, s)) ∨
      ∃ t, l.get? name = some t ∧ Admitted l catalog request t ∧
        Ended request name t (prepared registry l catalog request provider name s).1 := by
  rcases admitted_or_refused l catalog request name with ⟨t, ht, h⟩ | ⟨e, h⟩
  · refine .inr ⟨t, ht, h, ?_⟩
    cases hnames : (scan (stripOutput t.promptText)).needValues with
    | false =>
      obtain ⟨systemPrompt, hprepared⟩ := prepared_of_no_names registry provider s ht h hnames
      rw [hprepared]
      exact .ready systemPrompt _
    | true =>
      rcases hanswer : (provider (scan (stripOutput t.promptText)).text
        (scan (stripOutput t.promptText)).file).run s with ⟨answer, s'⟩
      obtain ⟨systemPrompt, hprepared⟩ :=
        prepared_of_names registry provider s ht h hnames hanswer
      rw [hprepared]
      exact ended_answered registry request name _ systemPrompt _
  · exact .inl ⟨e, h, prepared_of_refused registry provider s h⟩

end Results

end PromptLibrary
