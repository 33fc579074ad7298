import PromptLibrary.Proofs.Library.WellFormed

/-!
# The response format of a template

What is read as the response format after one was stored. A format that counts is stored in the
first place and hides the second one, so it is read again whatever the attributes hold. Removing a
format has to clear both places, and this needs well-formed attributes, in which no key is there
twice. They are needed as well for the other attributes to be found as before, since removing a key
moves one of them.
-/

namespace PromptLibrary.Template

open Json

@[simp] theorem substantial_eq_some_iff {format : Option Json} {v : Json} :
    substantial format = some v ↔ format = some v ∧ v.isVoid = false := by
  rw [substantial, Option.filter_eq_some_iff]
  simp

theorem get?_withoutKey {k : String} {v : Json} (h : v.WellFormed) :
    (withoutKey k v).get? k = none := by
  cases v with
  | object es => exact Entries.get?_swapErase_self k (wellFormed_object_iff.mp h).1
  | _ => rfl

@[simp] theorem promptText_setResponseFormat (t : Template) (format : Option Json) :
    (t.setResponseFormat format).promptText = t.promptText := by
  rw [Template.setResponseFormat]
  split <;> rfl

theorem attributes_setResponseFormat_of_some (t : Template) {format : Option Json} {v : Json}
    (h : substantial format = some v) : (t.setResponseFormat format).attributes =
      Entries.insert responseFormatKey v t.attributes := by
  rw [setResponseFormat, h]

theorem attributes_setResponseFormat_of_none (t : Template) {format : Option Json}
    (h : substantial format = none) : (t.setResponseFormat format).attributes =
      Entries.modify providerParametersKey (withoutKey responseFormatKey)
        (Entries.swapErase responseFormatKey t.attributes) := by
  rw [setResponseFormat, h]

theorem responseFormat_setResponseFormat_of_some (t : Template) {format : Option Json} {v : Json}
    (h : substantial format = some v) : (t.setResponseFormat format).responseFormat = some v := by
  have hown : substantial (some v) = some v :=
    substantial_eq_some_iff.mpr ⟨rfl, (substantial_eq_some_iff.mp h).2⟩
  rw [responseFormat, attributes_setResponseFormat_of_some t h, formatOf, Entries.get?_insert,
    if_pos BEq.rfl, hown, Option.some_or]

/-- The response format that is stored is the response format from then on, unless it is void. -/
theorem responseFormat_setResponseFormat {t : Template} (hwf : t.WellFormed)
    (format : Option Json) : (t.setResponseFormat format).responseFormat = substantial format := by
  cases hformat : substantial format with
  | some v => exact responseFormat_setResponseFormat_of_some t hformat
  | none =>
    -- neither place has a format any more
    obtain ⟨hdistinct, hvalues⟩ := wellFormed_object_iff.mp hwf
    let rest := Entries.swapErase responseFormatKey t.attributes
    have hown : Entries.get? (Entries.modify providerParametersKey
        (withoutKey responseFormatKey) rest) responseFormatKey = none := by
      rw [Entries.get?_modify, if_neg (by decide)]
      exact Entries.get?_swapErase_self responseFormatKey hdistinct
    have hprovider : (Entries.get? (Entries.modify providerParametersKey
        (withoutKey responseFormatKey) rest) providerParametersKey).bind
          (·.get? responseFormatKey) = none := by
      rw [Entries.get?_modify, if_pos BEq.rfl]
      cases hget : Entries.get? rest providerParametersKey with
      | none => rfl
      | some w =>
        obtain ⟨e, he, rfl⟩ := Entries.exists_mem_of_get? hget
        exact get?_withoutKey (hvalues e (Entries.mem_swapErase he))
    rw [responseFormat, attributes_setResponseFormat_of_none t hformat, formatOf, hown, hprovider]
    rfl

/-! ## What stays -/

theorem get?_setResponseFormat_of_ne {t : Template} (h : (Entries.keys t.attributes).Nodup)
    (format : Option Json) {k : String} (hformat : k ≠ responseFormatKey)
    (hparameters : k ≠ providerParametersKey) :
    Entries.get? (t.setResponseFormat format).attributes k = Entries.get? t.attributes k := by
  cases hsubstantial : substantial format with
  | some v =>
    rw [attributes_setResponseFormat_of_some t hsubstantial, Entries.get?_insert,
      if_neg (by simpa using hformat.symm)]
  | none =>
    rw [attributes_setResponseFormat_of_none t hsubstantial, Entries.get?_modify,
      if_neg (by simpa using hparameters.symm), Entries.get?_swapErase_of_ne h hformat]

theorem parameters_setResponseFormat_of_some (t : Template) {format : Option Json} {v : Json}
    (h : substantial format = some v) :
    Entries.get? (t.setResponseFormat format).attributes providerParametersKey =
      Entries.get? t.attributes providerParametersKey := by
  rw [attributes_setResponseFormat_of_some t h, Entries.get?_insert, if_neg (by decide)]

theorem parameters_setResponseFormat_of_none {t : Template}
    (hdistinct : (Entries.keys t.attributes).Nodup) {format : Option Json}
    (h : substantial format = none) :
    Entries.get? (t.setResponseFormat format).attributes providerParametersKey =
      (Entries.get? t.attributes providerParametersKey).map (withoutKey responseFormatKey) := by
  rw [attributes_setResponseFormat_of_none t h, Entries.get?_modify, if_pos BEq.rfl,
    Entries.get?_swapErase_of_ne hdistinct (by decide)]

end PromptLibrary.Template
