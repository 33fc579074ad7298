import PromptLibrary.CommandLine.Execute
import PromptLibrary.Proofs.Run
import PromptLibrary.Store.Memory

/-!
# Who is asked for values, and when

`Provider.recorded` is a provider that notes down what it is asked, in a layer of state of its own.
The rest of a run does not touch this layer (`RunsBelow`), so a run with the recording provider is
the run with the provider itself together with a record of its inquiries. The record has at most one
entry, and it has one exactly if the run is admitted and there is something to fill in: the names in
the stripped prompt.

The command line decides before the run whether the values given there are enough. It looks at the
same names, so it might as well leave the decision to a provider (`Provider.completed`).
-/

namespace PromptLibrary

open Placeholder

/-! ## Programs that leave a layer of state alone -/

section Layers

variable {m : Type → Type} [Monad m] {τ α β : Type}

/-- The program does what the one below it does and leaves its own layer of state alone. -/
def RunsBelow (x : StateT τ m α) (y : m α) : Prop :=
  ∀ w, x.run w = y >>= fun a ↦ pure (a, w)

theorem runsBelow_liftM (y : m α) : RunsBelow (liftM y : StateT τ m α) y := fun _ ↦ rfl

variable [LawfulMonad m]

theorem runsBelow_pure (a : α) : RunsBelow (pure a : StateT τ m α) (pure a) := by
  intro w
  rw [StateT.run_pure, pure_bind]

theorem RunsBelow.bind {x : StateT τ m α} {y : m α} {f : α → StateT τ m β} {g : α → m β}
    (h : RunsBelow x y) (hf : ∀ a, RunsBelow (f a) (g a)) : RunsBelow (x >>= f) (y >>= g) := by
  intro w
  rw [StateT.run_bind, h w, bind_assoc, bind_assoc]
  refine bind_congr fun a ↦ ?_
  rw [pure_bind]
  exact hf a w

theorem runsBelow_mapM {γ : Type} {f : γ → StateT τ m α} {g : γ → m α}
    (h : ∀ c, RunsBelow (f c) (g c)) (cs : List γ) : RunsBelow (cs.mapM f) (cs.mapM g) := by
  induction cs with
  | nil => exact runsBelow_pure []
  | cons c cs ih =>
    rw [List.mapM_cons, List.mapM_cons]
    exact (h c).bind fun a ↦ ih.bind fun as ↦ runsBelow_pure (a :: as)

/-! ### Filling a prompt -/

variable [FileStore m] (registry : LoaderRegistry)

theorem runsBelow_loadFile (loader : Loader) (path : Path) :
    RunsBelow (loader.loadFile path : StateT τ m (Option String)) (loader.loadFile path) :=
  (runsBelow_liftM (FileStore.read path : ExceptT FileError m String).run).bind fun _ ↦
    runsBelow_pure _

theorem runsBelow_fileContent (path : Option Path) :
    RunsBelow (fileContent registry path : StateT τ m String) (fileContent registry path) := by
  rw [fileContent, fileContent]
  split
  · exact runsBelow_pure _
  · refine (runsBelow_liftM (FileStore.has (path.getD ⟨""⟩) : m Bool)).bind fun found ↦ ?_
    cases found with
    | false => exact runsBelow_pure _
    | true =>
      cases registry.get? (path.getD ⟨""⟩).extensionKey with
      | none => exact runsBelow_pure _
      | some loader =>
        refine (runsBelow_loadFile loader _).bind fun content ↦ ?_
        cases content <;> exact runsBelow_pure _

theorem runsBelow_fill (names : Names) (values : Values) (text : String) :
    RunsBelow (fill registry names values text : StateT τ m String)
      (fill registry names values text) := by
  refine RunsBelow.bind (runsBelow_mapM (fun n ↦ ?_) names.file) fun contents ↦ runsBelow_pure _
  exact (runsBelow_fileContent registry (values.file? n)).bind fun content ↦ runsBelow_pure _

theorem runsBelow_answered (p : RunPlan) (request : RunRequest) (name : String)
    (answer : Except String Answer) :
    RunsBelow (p.answered registry request name answer : StateT τ m _)
      (p.answered registry request name answer) := by
  rcases answer with reason | answer
  · exact runsBelow_pure _
  · cases answer with
    | cancelled => exact runsBelow_pure _
    | values values => exact (runsBelow_fill registry _ values _).bind fun text ↦ runsBelow_pure _

end Layers

/-! ## Recording -/

/-- A request for values: the names of text placeholders and those of file placeholders. -/
abbrev Inquiry : Type := List String × List String

/-- What has to be filled in before a template can be run. -/
def Template.inquiry (t : Template) : Inquiry :=
  let names := scan (stripOutput t.promptText)
  (names.text, names.file)

@[simp] theorem Template.inquiry_fst (t : Template) :
    t.inquiry.1 = (scan (stripOutput t.promptText)).text := by
  rw [inquiry]

@[simp] theorem Template.inquiry_snd (t : Template) :
    t.inquiry.2 = (scan (stripOutput t.promptText)).file := by
  rw [inquiry]

theorem Template.inquiry_ne_iff {t : Template} :
    t.inquiry ≠ ([], []) ↔ (scan (stripOutput t.promptText)).needValues = true := by
  simp [inquiry, Names.needValues, Prod.ext_iff, or_iff_not_imp_left]

section Recording

variable {m : Type → Type} [Monad m]

/-- A provider that notes down what it is asked. -/
def Placeholder.Provider.recorded (provider : Provider m) : Provider (StateT (List Inquiry) m) :=
  fun texts files ↦ do
    modify (· ++ [(texts, files)])
    liftM (provider texts files)

variable [LawfulMonad m]

theorem run_recorded (provider : Provider m) (texts files : List String) (w : List Inquiry) :
    (provider.recorded texts files).run w =
      provider texts files >>= fun answer ↦ pure (answer, w ++ [(texts, files)]) := by
  rw [Provider.recorded, StateT.run_bind]
  exact pure_bind _ _

variable [FileStore m] {registry : LoaderRegistry} {l : Library} {catalog : ModelCatalog}
  {request : RunRequest} {provider : Provider m} {name : String} {p : RunPlan}

theorem run_prepareRun_recorded_of_names (h : planRun l catalog request name = .ok p)
    (hnames : (scan p.promptText).needValues = true) :
    (prepareRun registry l catalog request provider.recorded name).run.run [] =
      (prepareRun registry l catalog request provider name).run >>= fun r ↦
        pure (r, [((scan p.promptText).text, (scan p.promptText).file)]) := by
  rw [run_prepareRun_of_names h hnames, run_prepareRun_of_names h hnames, StateT.run_bind,
    run_recorded, bind_assoc, bind_assoc]
  refine bind_congr fun answer ↦ ?_
  rw [pure_bind]
  exact runsBelow_answered registry p request name answer _

end Recording

/-! ## The command line -/

section Completing

variable {m : Type → Type} [Monad m]

/-- Gives the values if they are all that is asked for, and otherwise asks somebody else. -/
def Placeholder.Provider.completed (values : Values) (provider : Provider m) : Provider m :=
  fun texts files ↦
    if values.covers texts files then pure (.ok (.values values)) else provider texts files

variable [LawfulMonad m]

/-- All that matters about a provider is its answer to the one request. -/
theorem prepareRun_congr [FileStore m] {registry : LoaderRegistry} {l : Library}
    {catalog : ModelCatalog} {request : RunRequest} {provider provider' : Provider m}
    {name : String} {t : Template} (ht : l.get? name = some t)
    (h : provider t.inquiry.1 t.inquiry.2 = provider' t.inquiry.1 t.inquiry.2) :
    prepareRun registry l catalog request provider name =
      prepareRun registry l catalog request provider' name := by
  refine ExceptT.ext ?_
  rcases admitted_or_refused l catalog request name with ⟨t', ht', hadmitted⟩ | ⟨e, hrefused⟩
  · obtain rfl : t = t' := Option.some.inj (ht.symm.trans ht')
    obtain ⟨systemPrompt, hplan⟩ := planRun_of_admitted ht hadmitted
    cases hnames : (scan (stripOutput t.promptText)).needValues with
    | false => rw [run_prepareRun_of_no_names hplan hnames, run_prepareRun_of_no_names hplan hnames]
    | true =>
      rw [t.inquiry_fst, t.inquiry_snd] at h
      rw [run_prepareRun_of_names hplan hnames, run_prepareRun_of_names hplan hnames, h]
  · rw [run_prepareRun_of_refused hrefused, run_prepareRun_of_refused hrefused]

theorem CommandLine.answered_bind_congr {α β : Type} {x : Except Error α}
    {f g : α → ExceptT Failure m β} (h : ∀ a, x = .ok a → f a = g a) :
    answered x >>= f = answered x >>= g := by
  cases x with
  | ok a =>
    refine ExceptT.ext ?_
    rw [ExceptT.run_bind, ExceptT.run_bind, answered, plainly]
    change (Except.mapError _ <$> pure (.ok a)) >>= _ = (Except.mapError _ <$> pure (.ok a)) >>= _
    rw [map_pure, pure_bind, pure_bind]
    exact congrArg ExceptT.run (h a rfl)
  | error e =>
    refine ExceptT.ext ?_
    rw [ExceptT.run_bind, ExceptT.run_bind, answered, plainly]
    change (Except.mapError _ <$> pure (.error e)) >>= _ =
      (Except.mapError _ <$> pure (.error e)) >>= _
    rw [map_pure, pure_bind, pure_bind]
    rfl

/-- The command line tests its values against the names that the provider is asked for. -/
theorem CommandLine.runRun_eq [FileStore m] (keys : m (Option (List Key))) (config : Config)
    (name : String) (mode : ResponseMode) (model : Option String) (values : Values) :
    runRun keys config name mode model values = (do
      let w ← openWorkspace config
      let _ ← answered (w.library.require name)
      return showOutcome (← plainly
        (w.prepareRun mode model (.completed values (Form.provider keys values)) name))) := by
  refine bind_congr fun w ↦ answered_bind_congr fun t ht ↦ ?_
  have hget := Library.get?_of_require ht
  have hprepare : w.prepareRun mode model (if values.covers (scan (stripOutput t.promptText)).text
      (scan (stripOutput t.promptText)).file then Provider.always (.values values)
        else Form.provider keys values) name =
      w.prepareRun mode model (Provider.completed values (Form.provider keys values)) name := by
    refine prepareRun_congr hget ?_
    rw [Provider.completed, t.inquiry_fst, t.inquiry_snd]
    split <;> rfl
  simp only [hprepare]

end Completing

/-! ## Asking once -/

section Asking

variable {σ : Type} [FileStore (StateM σ)]

/-- What a run asks, and what becomes of it. -/
structure AsksOnce (registry : LoaderRegistry) (l : Library) (catalog : ModelCatalog)
    (request : RunRequest) (provider : Provider (StateM σ)) (name : String) (s : σ)
    (asked : List Inquiry) : Prop where
  /-- This is what the provider is asked, and noting it down changes nothing. -/
  recorded : ((prepareRun registry l catalog request provider.recorded name).run.run []).run s =
    (((prepared registry l catalog request provider name s).1, asked),
      (prepared registry l catalog request provider name s).2)
  /-- The provider is asked at most once. -/
  once : asked.length ≤ 1
  /-- It is asked for everything that has to be filled in, in a run that can go ahead. -/
  mem_iff (q : Inquiry) : q ∈ asked ↔ ∃ t, l.get? name = some t ∧
    Admitted l catalog request t ∧ t.inquiry ≠ ([], []) ∧ q = t.inquiry
  /-- A run that cannot go ahead fails without asking. -/
  refused {e : Error} (h : Refused l catalog request name e) :
    asked = [] ∧ prepared registry l catalog request provider name s = (.error e, s)
  /-- If there is nothing to fill in the run is ready. -/
  ready {t : Template} (ht : l.get? name = some t) (h : Admitted l catalog request t)
    (hnothing : t.inquiry = ([], [])) : ∃ systemPrompt,
      prepared registry l catalog request provider name s =
        (.ok (.ready ⟨name, request.model, request.mode, systemPrompt, stripOutput t.promptText,
          t.requestAttributes⟩), s)
  /-- A failure of the provider is a failure of the run. -/
  failed {t : Template} (ht : l.get? name = some t) (h : Admitted l catalog request t)
    (hsome : t.inquiry ≠ ([], [])) {reason : String} {s' : σ}
    (hanswer : (provider t.inquiry.1 t.inquiry.2).run s = (.error reason, s')) :
    prepared registry l catalog request provider name s = (.error (.providerFailed reason), s')
  /-- If the request is dismissed the stripped prompt is left as it is. -/
  cancelled {t : Template} (ht : l.get? name = some t) (h : Admitted l catalog request t)
    (hsome : t.inquiry ≠ ([], [])) {s' : σ}
    (hanswer : (provider t.inquiry.1 t.inquiry.2).run s = (.ok .cancelled, s')) :
    prepared registry l catalog request provider name s =
      (.ok (.cancelled name (stripOutput t.promptText)), s')
  /-- With values the run is ready, and its prompt is the stripped prompt that they fill. -/
  filled {t : Template} (ht : l.get? name = some t) (h : Admitted l catalog request t)
    (hsome : t.inquiry ≠ ([], [])) {values : Values} {s' : σ}
    (hanswer : (provider t.inquiry.1 t.inquiry.2).run s = (.ok (.values values), s')) :
    ∃ systemPrompt text s'', StateT.run (fill registry (scan (stripOutput t.promptText)) values
        (stripOutput t.promptText) : StateM σ String) s' = (text, s'') ∧
      prepared registry l catalog request provider name s =
        (.ok (.ready ⟨name, request.model, request.mode, systemPrompt, text,
          t.requestAttributes⟩), s'')

variable (registry : LoaderRegistry) (l : Library) (catalog : ModelCatalog) (request : RunRequest)
  (provider : Provider (StateM σ)) (name : String) (s : σ)

theorem prepared_of_inquiry {l : Library} {catalog : ModelCatalog} {request : RunRequest}
    {name : String} {t : Template} (ht : l.get? name = some t) (h : Admitted l catalog request t)
    (hsome : t.inquiry ≠ ([], [])) {answer : Except String Answer} {s' : σ}
    (hanswer : (provider t.inquiry.1 t.inquiry.2).run s = (answer, s')) :
    ∃ systemPrompt, prepared registry l catalog request provider name s =
      (RunPlan.answered ⟨systemPrompt, stripOutput t.promptText, t.requestAttributes⟩ registry
        request name answer : StateM σ _).run s' := by
  rw [t.inquiry_fst, t.inquiry_snd] at hanswer
  exact prepared_of_names registry provider s ht h (Template.inquiry_ne_iff.mp hsome) hanswer

/-- What is noted down determines the rest, which a run does with or without a record. -/
theorem AsksOnce.of_recorded {asked : List Inquiry}
    (recorded : ((prepareRun registry l catalog request provider.recorded name).run.run []).run s =
      (((prepared registry l catalog request provider name s).1, asked),
        (prepared registry l catalog request provider name s).2))
    (once : asked.length ≤ 1)
    (mem_iff : ∀ q, q ∈ asked ↔ ∃ t, l.get? name = some t ∧ Admitted l catalog request t ∧
      t.inquiry ≠ ([], []) ∧ q = t.inquiry) :
    AsksOnce registry l catalog request provider name s asked where
  recorded := recorded
  once := once
  mem_iff := mem_iff
  refused {e} h := by
    refine ⟨List.eq_nil_iff_forall_not_mem.mpr fun q hq ↦ ?_,
      prepared_of_refused registry provider s h⟩
    obtain ⟨t, ht, hadmitted, -⟩ := (mem_iff q).mp hq
    exact hadmitted.not_refused ht e h
  ready {t} ht h hnothing := by
    refine prepared_of_no_names registry provider s ht h (Bool.eq_false_iff.mpr fun hnames ↦ ?_)
    exact Template.inquiry_ne_iff.mpr hnames hnothing
  failed ht h hsome _ _ hanswer := by
    obtain ⟨systemPrompt, hprepared⟩ :=
      prepared_of_inquiry registry provider s ht h hsome hanswer
    exact hprepared
  cancelled ht h hsome _ hanswer := by
    obtain ⟨systemPrompt, hprepared⟩ :=
      prepared_of_inquiry registry provider s ht h hsome hanswer
    exact hprepared
  filled {t} ht h hsome values s' hanswer := by
    obtain ⟨systemPrompt, hprepared⟩ :=
      prepared_of_inquiry registry provider s ht h hsome hanswer
    rcases hfill : StateT.run (fill registry (scan (stripOutput t.promptText)) values
      (stripOutput t.promptText) : StateM σ String) s' with ⟨text, s''⟩
    refine ⟨systemPrompt, text, s'', rfl, ?_⟩
    rw [hprepared, RunPlan.answered, StateT.run_bind, hfill]
    rfl

theorem exists_asksOnce : ∃ asked, AsksOnce registry l catalog request provider name s asked := by
  rcases admitted_or_refused l catalog request name with ⟨t, ht, h⟩ | ⟨e, hrefused⟩
  · have hunique : ∀ t', l.get? name = some t' → t' = t := fun t' ht' ↦
      Option.some.inj (ht'.symm.trans ht)
    obtain ⟨systemPrompt, hplan⟩ := planRun_of_admitted ht h
    cases hnames : (scan (stripOutput t.promptText)).needValues with
    | false =>
      refine ⟨[], .of_recorded _ _ _ _ _ _ _ ?_ (Nat.zero_le 1) fun q ↦ ?_⟩
      · rw [prepared, perform, run_prepareRun_of_no_names hplan hnames,
          run_prepareRun_of_no_names hplan hnames]
        rfl
      · refine ⟨fun hq ↦ absurd hq List.not_mem_nil, ?_⟩
        rintro ⟨t', ht', -, hsome, -⟩
        rw [hunique t' ht', Template.inquiry_ne_iff, hnames] at hsome
        cases hsome
    | true =>
      refine ⟨[t.inquiry], .of_recorded _ _ _ _ _ _ _ ?_ (Nat.le_refl 1) fun q ↦ ?_⟩
      · rw [run_prepareRun_recorded_of_names hplan hnames, StateT.run_bind]
        rfl
      · rw [List.mem_singleton]
        constructor
        · rintro rfl
          exact ⟨t, ht, h, Template.inquiry_ne_iff.mpr hnames, rfl⟩
        · rintro ⟨t', ht', -, -, rfl⟩
          rw [hunique t' ht']
  · refine ⟨[], .of_recorded _ _ _ _ _ _ _ ?_ (Nat.zero_le 1) fun q ↦ ?_⟩
    · rw [run_prepareRun_of_refused hrefused, prepared, perform,
        run_prepareRun_of_refused hrefused]
      rfl
    · refine ⟨fun hq ↦ absurd hq List.not_mem_nil, ?_⟩
      rintro ⟨t, ht, hadmitted, -⟩
      exact absurd hrefused (hadmitted.not_refused ht e)

/-- For every run there is a list of at most one inquiry that the provider is asked, and the command
line decides by the names of this inquiry whether the values given there are enough. -/
theorem exists_asksOnce_and_runRun_eq :
    (∃ asked, AsksOnce registry l catalog request provider name s asked) ∧
      ∀ (keys : StateM σ (Option (List Key))) (config : Config) (mode : ResponseMode)
        (model : Option String) (values : Values),
        CommandLine.runRun keys config name mode model values = (do
          let w ← CommandLine.openWorkspace config
          let _ ← CommandLine.answered (w.library.require name)
          return CommandLine.showOutcome (← CommandLine.plainly
            (w.prepareRun mode model (.completed values (Form.provider keys values)) name))) :=
  ⟨exists_asksOnce registry l catalog request provider name s,
    fun keys config mode model values ↦
      CommandLine.runRun_eq keys config name mode model values⟩

end Asking

/-- All names are asked for together, and none of an output placeholder. -/
example :
    let l : Library := { templates := [("t", .withText "<< a >> %% b %% @@ c @@ << d >>")] }
    let provider : Provider (StateM MemoryStore) := .always .cancelled
    (((prepareRun .standard l {} ⟨.question, "m", ""⟩ provider.recorded "t").run.run []).run
      {}).1.2 = [(["a", "d"], ["b"])] := by
  rfl

end PromptLibrary
