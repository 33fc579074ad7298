import PromptLibrary.Proofs.Run
import PromptLibrary.Store.Memory

/-!
# Response formats of runs

The response format is looked for in the template, while the request is given the attributes that
are left when the ones that must not reach it are removed. Removal moves the last attribute to the
place that becomes free, so the two agree because a key tells its value in any order of the keys,
which needs distinct keys (`Template.formatOf_requestAttributes`).

A run only succeeds if the mode and the model honour the response format, and the request of a run
that is ready carries it (`formats_prepared`).
-/

namespace PromptLibrary

open Placeholder

theorem Template.formatOf_requestAttributes {t : Template}
    (h : (Entries.keys t.attributes).Nodup) : formatOf t.requestAttributes = t.responseFormat := by
  have hget {k : String} (hkey : ¬(k = systemPromptKey ∨ k = selectionKey)) :
      Entries.get? t.requestAttributes k = Entries.get? t.attributes k := by
    rw [get?_requestAttributes h, if_neg hkey]
  rw [responseFormat, formatOf, formatOf, hget (by decide), hget (by decide)]

section Formats

variable {σ : Type} [FileStore (StateM σ)] (registry : LoaderRegistry) (l : Library)
  (catalog : ModelCatalog) (request : RunRequest) (provider : Provider (StateM σ)) (name : String)
  (s : σ)

/-- A run that succeeds has a response format that its mode and its model honour, if it has any, and
its request, if it is ready, carries this format. A run without a response format never fails for
the sake of one. Succeeding is not in doubt: a run fails for another reason than the provider's only
if it is not admitted. -/
theorem formats_prepared (h : ∀ t, l.get? name = some t → (Entries.keys t.attributes).Nodup) :
    (∀ outcome, (prepared registry l catalog request provider name s).1 = .ok outcome →
      ∃ t, l.get? name = some t ∧ FormatAllowed catalog request t ∧
        ∀ p, outcome = .ready p → Template.formatOf p.attributes = t.responseFormat) ∧
    ((∀ t, l.get? name = some t → t.responseFormat = none) →
      (prepared registry l catalog request provider name s).1 ≠ .error .chatWithResponseFormat ∧
      ∀ model, (prepared registry l catalog request provider name s).1 ≠
        .error (.modelLacksResponseSchema model)) ∧
    ((∀ e, (prepared registry l catalog request provider name s).1 = .error e →
        ∃ reason, e = .providerFailed reason) ↔
      ∃ t, l.get? name = some t ∧ Admitted l catalog request t) := by
  rcases prepared_cases registry l catalog request provider name s with
    ⟨e, hrefused, hresult⟩ | ⟨t, ht, hadmitted, hended⟩
  · rw [hresult]
    refine ⟨fun outcome houtcome ↦ (nomatch houtcome), fun hnone ↦ ?_, ?_, ?_⟩
    · cases hrefused with
      | notFound | system | selection =>
        exact ⟨fun h ↦ by simp at h, fun model h ↦ by simp at h⟩
      | chat ht _ _ hformat => exact absurd (hnone _ ht) hformat
      | model ht _ _ hformat => exact absurd (hnone _ ht) hformat
    · intro hreason
      obtain ⟨reason, rfl⟩ := hreason e rfl
      cases hrefused
    · rintro ⟨t, ht, hadmitted⟩
      exact absurd hrefused (hadmitted.not_refused ht e)
  · generalize (prepared registry l catalog request provider name s).1 = result at hended
    refine ⟨fun outcome houtcome ↦ ?_, fun _ ↦ ?_, fun _ ↦ ⟨t, ht, hadmitted⟩, fun _ e he ↦ ?_⟩
    · refine ⟨t, ht, hadmitted.format, ?_⟩
      rintro p rfl
      cases hended with
      | failed => cases houtcome
      | cancelled => cases houtcome
      | ready =>
        cases houtcome
        exact Template.formatOf_requestAttributes (h t ht)
    · cases hended <;> simp
    · cases hended with
      | failed reason => exact ⟨reason, by simpa using he.symm⟩
      | cancelled => cases he
      | ready => cases he

end Formats

/-- The format is found behind the attributes that change places. -/
theorem formats_prepared_moved :
    let format := Json.object [("type", .string "json_object")]
    let t : Template := { attributes := [("system_prompt", .string "Be brief."),
      ("response_format", .object []), ("custom_system_prompt_name", .null),
      ("venice_parameters", .object [("response_format", format)])] }
    let l : Library := { templates := [("t", t)] }
    let catalog := ModelCatalog.ofList [⟨"m", "M", true, false⟩]
    ∃ p, (prepared .standard l catalog ⟨.question, "m", ""⟩ (Provider.always .cancelled) "t"
        ({} : MemoryStore)).1 = .ok (.ready p) ∧
      Entries.keys p.attributes = ["venice_parameters", "response_format"] ∧
      Template.formatOf p.attributes = some format := by
  intro format t l catalog
  have hdistinct : ∀ t', l.get? "t" = some t' → (Entries.keys t'.attributes).Nodup := by
    intro t' ht'
    cases ht'
    decide
  have hadmitted : Admitted l catalog ⟨.question, "m", ""⟩ t := by
    refine ⟨rfl, fun selected hselected ↦ ?_, fun _ ↦ ⟨rfl, _, rfl, rfl⟩⟩
    cases hselected
  obtain ⟨systemPrompt, hready⟩ := prepared_of_no_names .standard (Provider.always .cancelled)
    ({} : MemoryStore) (rfl : l.get? "t" = some t) hadmitted (by decide)
  have hsucceeds := congrArg Prod.fst hready
  refine ⟨_, hsucceeds, rfl, ?_⟩
  obtain ⟨t', ht', -, hformat⟩ := (formats_prepared _ l catalog _ _ "t" _ hdistinct).1 _ hsucceeds
  cases ht'
  exact hformat _ rfl

end PromptLibrary
