import PromptLibrary.Proofs.Entries.Order
import PromptLibrary.Proofs.Run
import PromptLibrary.Proofs.Template
import PromptLibrary.Store.Memory

/-!
# The order of attributes

The attributes of a template have an order, which its file and the requests of its runs show. Two
attributes are taken out of a request, and a response format that is cleared is taken out of its two
places. Each time the last attribute moves to the place that becomes free. The others stay in their
order only if at most one of them came after a removed one, or in one more case with two removals
(`Template.attributes_order`).
-/

namespace PromptLibrary

open Entries Placeholder

namespace Template

variable {t : Template}

theorem keys_requestAttributes_perm (h : (keys t.attributes).Nodup) :
    (keys t.requestAttributes).Perm (others [systemPromptKey, selectionKey] (keys t.attributes)) :=
  keys_swapErase_swapErase_perm h

theorem keys_requestAttributes_eq_iff (h : (keys t.attributes).Nodup) :
    keys t.requestAttributes = others [systemPromptKey, selectionKey] (keys t.attributes) ↔
      (behind [systemPromptKey, selectionKey] (keys t.attributes)).length ≤ 1 ∨
        ∃ x y, [selectionKey, systemPromptKey, x, y] <:+ keys t.attributes :=
  keys_swapErase_swapErase_eq_iff h (by decide)

/-- A format that is cleared is taken out of the attributes; the provider's parameters keep their
place. -/
theorem keys_setResponseFormat_of_none (t : Template) {format : Option Json}
    (h : substantial format = none) : keys (t.setResponseFormat format).attributes =
      keys (swapErase responseFormatKey t.attributes) := by
  rw [attributes_setResponseFormat_of_none t h, keys_modify]

end Template

variable {σ : Type} [FileStore (StateM σ)] (registry : LoaderRegistry) (catalog : ModelCatalog)
  (request : RunRequest) (provider : Provider (StateM σ)) (s : σ) {l : Library} {name : String}
  {t : Template}

theorem exists_ready_of_plain (ht : l.get? name = some t) (hrole : t.role = .user)
    (hselection : t.selection? = none) (hformat : t.responseFormat = none)
    (hnames : (scan (stripOutput t.promptText)).needValues = false) :
    ∃ p, (prepared registry l catalog request provider name s).1 = .ok (.ready p) ∧
      p.attributes = t.requestAttributes := by
  obtain ⟨systemPrompt, hprepared⟩ := prepared_of_no_names registry provider s ht
    (.plain hrole hselection hformat) hnames
  exact ⟨_, congrArg Prod.fst hprepared, rfl⟩

/-- **The order of attributes.** The request of a run that is ready has all attributes of the
template but two, and they are in their old order exactly if at most one of them came after a
removed one, or if two came after both and the name of the system template stands right before the
system prompt. A response format that is cleared leaves all other attributes, and all other
parameters of the provider; each of the two lists is in its old order exactly if at most one key
came after the removed one. -/
theorem Template.attributes_order (t : Template) (hwf : t.WellFormed) :
    (∀ {σ : Type} [FileStore (StateM σ)] (registry : LoaderRegistry) (l : Library)
        (catalog : ModelCatalog) (request : RunRequest) (provider : Provider (StateM σ))
        (name : String) (s : σ) (p : PreparedPrompt), l.get? name = some t →
      (prepared registry l catalog request provider name s).1 = .ok (.ready p) →
        (keys p.attributes).Perm (others [systemPromptKey, selectionKey] (keys t.attributes)) ∧
        (keys p.attributes = others [systemPromptKey, selectionKey] (keys t.attributes) ↔
          (behind [systemPromptKey, selectionKey] (keys t.attributes)).length ≤ 1 ∨
            ∃ x y, [selectionKey, systemPromptKey, x, y] <:+ keys t.attributes)) ∧
    ∀ format, substantial format = none →
      ((keys (t.setResponseFormat format).attributes).Perm
          (others [responseFormatKey] (keys t.attributes)) ∧
        (keys (t.setResponseFormat format).attributes =
            others [responseFormatKey] (keys t.attributes) ↔
          (behind [responseFormatKey] (keys t.attributes)).length ≤ 1)) ∧
      ∀ es, get? t.attributes providerParametersKey = some (.object es) →
        ∃ es', get? (t.setResponseFormat format).attributes providerParametersKey =
            some (.object es') ∧
          (keys es').Perm (others [responseFormatKey] (keys es)) ∧
          (keys es' = others [responseFormatKey] (keys es) ↔
            (behind [responseFormatKey] (keys es)).length ≤ 1) := by
  obtain ⟨hdistinct, hvalues⟩ := Json.wellFormed_object_iff.mp hwf
  refine ⟨fun registry l catalog request provider name s p ht hready ↦ ?_, fun format hvoid ↦ ?_⟩
  · rcases prepared_cases registry l catalog request provider name s with
      ⟨e, -, hprepared⟩ | ⟨t', ht', -, hended⟩
    · rw [hprepared] at hready
      cases hready
    · obtain rfl : t = t' := Option.some.inj (ht.symm.trans ht')
      rw [hready] at hended
      cases hended
      exact ⟨keys_requestAttributes_perm hdistinct, keys_requestAttributes_eq_iff hdistinct⟩
  · rw [keys_setResponseFormat_of_none t hvoid]
    refine ⟨⟨keys_swapErase_perm hdistinct, keys_swapErase_eq_iff hdistinct⟩, fun es hes ↦ ?_⟩
    have hparameters : (keys es).Nodup := by
      have hmem := (get?_eq_some_iff hdistinct).mp hes
      exact (Json.wellFormed_object_iff.mp (hvalues _ hmem)).1
    refine ⟨swapErase responseFormatKey es, ?_, keys_swapErase_perm hparameters,
      keys_swapErase_eq_iff hparameters⟩
    rw [parameters_setResponseFormat_of_none hdistinct hvoid, hes]
    rfl

/-- The two attributes that are taken out stand before two others: after one order of the two the
others change places twice, after the other once. A format is cleared that stands right before the
end among the attributes and further in front among the provider's parameters. -/
theorem Template.attributes_order_moved_twice :
    let rest : Entries String Json :=
      [("temperature", .number (.integer 1)), ("top_p", .number (.integer 2))]
    let prompted (first second : String) : Template :=
      { attributes := (first, .null) :: (second, .string "") :: rest }
    let formatted : Template :=
      { attributes := [("stop", .null), ("response_format", .object []),
          ("venice_parameters", .object (("response_format", .null) :: rest))] }
    let run (t : Template) : Except Error RunOutcome :=
      (prepared .standard { templates := [("t", t)] } {} ⟨.question, "", ""⟩
        (Provider.always .cancelled) "t" ({} : MemoryStore)).1
    (∃ p, run (prompted selectionKey systemPromptKey) = .ok (.ready p) ∧
        keys p.attributes = keys rest) ∧
      (∃ p, run (prompted systemPromptKey selectionKey) = .ok (.ready p) ∧
        keys p.attributes ≠ keys rest) ∧
      keys (formatted.setResponseFormat none).attributes = ["stop", "venice_parameters"] ∧
      ∃ es, get? (formatted.setResponseFormat none).attributes "venice_parameters" =
        some (.object es) ∧ keys es ≠ keys rest := by
  intro rest prompted formatted run
  have hrest : ∀ e ∈ rest, e.2.WellFormed := by
    simp [rest, Json.WellFormed, Json.Number.InRange]
  have hwf (first second : String) (hkeys : (keys (prompted first second).attributes).Nodup) :
      (prompted first second).WellFormed :=
    Json.wellFormed_object_iff.mpr ⟨hkeys, List.forall_mem_cons.mpr
      ⟨trivial, List.forall_mem_cons.mpr ⟨trivial, hrest⟩⟩⟩
  have hformatted : formatted.WellFormed := by
    have hparameters : (Json.object (("response_format", .null) :: rest)).WellFormed :=
      Json.wellFormed_object_iff.mpr ⟨by decide, List.forall_mem_cons.mpr ⟨trivial, hrest⟩⟩
    refine Json.wellFormed_object_iff.mpr ⟨by decide, List.forall_mem_cons.mpr ⟨trivial, ?_⟩⟩
    exact List.forall_mem_cons.mpr
      ⟨Json.wellFormed_object_nil, List.forall_mem_singleton.mpr hparameters⟩
  have hready (first second : String) (hselection : (prompted first second).selection? = none)
      (hformat : (prompted first second).responseFormat = none) :
      ∃ p, run (prompted first second) = .ok (.ready p) := by
    have hnames : (scan (stripOutput "")).needValues = false := by decide
    have ht : Library.get? { templates := [("t", prompted first second)] } "t" =
      some (prompted first second) := rfl
    obtain ⟨p, hp, -⟩ := exists_ready_of_plain .standard {} ⟨.question, "", ""⟩
      (Provider.always .cancelled) ({} : MemoryStore) ht rfl hselection hformat hnames
    exact ⟨p, hp⟩
  refine ⟨?_, ?_, ?_⟩
  · obtain ⟨p, hp⟩ := hready selectionKey systemPromptKey rfl rfl
    obtain ⟨-, horder⟩ := (attributes_order _ (hwf selectionKey systemPromptKey (by decide))).1
      _ _ _ _ _ _ _ p rfl hp
    exact ⟨p, hp, horder.mpr (.inr ⟨"temperature", "top_p", by decide⟩)⟩
  · obtain ⟨p, hp⟩ := hready systemPromptKey selectionKey rfl rfl
    obtain ⟨-, horder⟩ := (attributes_order _ (hwf systemPromptKey selectionKey (by decide))).1
      _ _ _ _ _ _ _ p rfl hp
    refine ⟨p, hp, fun hkeys ↦ ?_⟩
    rcases horder.mp hkeys with hlength | ⟨x, y, hsuffix⟩
    · exact absurd hlength (by decide)
    · have hfirst := List.head_eq_of_cons_eq (hsuffix.eq_of_length rfl)
      exact absurd hfirst (by decide)
  · obtain ⟨⟨-, hattributes⟩, hparameters⟩ := (attributes_order _ hformatted).2 none rfl
    obtain ⟨es, hes, -, horder⟩ := hparameters _ rfl
    exact ⟨hattributes.mpr (by decide), es, hes, mt horder.mp (by decide)⟩

/-- The attributes after a system prompt change places in the request, and so do the ones after a
response format that is cleared, in both of its places. -/
theorem Template.not_attributes_in_order :
    let rest : Entries String Json :=
      [("temperature", .number (.integer 1)), ("top_p", .number (.integer 2))]
    let prompted : Template := { attributes := ("system_prompt", .string "Be brief.") :: rest }
    let format := Json.object [("type", .string "json_object")]
    let parameters : Entries String Json :=
      [("response_format", format), ("stop", .null), ("character_slug", .null)]
    let formatted : Template :=
      { attributes :=
          ("response_format", format) :: rest ++ [("venice_parameters", .object parameters)] }
    let cleared := formatted.setResponseFormat none
    (∃ p, (prepared .standard { templates := [("t", prompted)] } {} ⟨.question, "", "default"⟩
          (Provider.always .cancelled) "t" ({} : MemoryStore)).1 = .ok (.ready p) ∧
        ¬(keys p.attributes).Sublist (keys prompted.attributes)) ∧
      ¬(keys cleared.attributes).Sublist (keys formatted.attributes) ∧
      ∃ es, get? cleared.attributes "venice_parameters" = some (.object es) ∧
        ¬(keys es).Sublist (keys parameters) := by
  intro rest prompted format parameters formatted cleared
  have ht : Library.get? { templates := [("t", prompted)] } "t" = some prompted := rfl
  obtain ⟨p, hp, hattributes⟩ := exists_ready_of_plain .standard {} ⟨.question, "", "default"⟩
    (Provider.always .cancelled) ({} : MemoryStore) ht rfl rfl rfl (by decide)
  refine ⟨⟨p, hp, ?_⟩, by decide, _, rfl, by decide⟩
  rw [hattributes]
  decide

end PromptLibrary
