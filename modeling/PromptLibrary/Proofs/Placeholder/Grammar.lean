import PromptLibrary.Proofs.Placeholder.Hole

/-!
# The grammar of placeholders

What a scan finds is described without a reading, by the places at which tokens are spelled. Tokens
of one kind can overlap, since the closing delimiter of a file or an output placeholder can open
another one, so a scan cannot take them all. It makes a choice: the spans that it takes are apart
from each other, and where a token is spelled that it does not take, one that begins earlier is in
the way (`Pattern.Reading`). There is one choice like this for every text
(`Pattern.reading_iff_eq_spans`).

Text placeholders open and close with different characters, so no two of them overlap and the choice
is all of them. A scan for them finds exactly the names that are spelled between their delimiters
(`Placeholder.scan_grammar`).
-/

namespace PromptLibrary

namespace Pattern

open Placeholder

variable {p : Pattern} {cs : List Char}

/-! ## Places of tokens -/

/-- A token of the pattern is spelled at its place in the text. -/
def Span.Spelled (p : Pattern) (cs : List Char) (s : Span) : Prop :=
  p.Fits s.token ∧ s.token.spelling <+: cs.drop s.start

theorem Span.spelled_iff (hp : p.Delimited) {s : Span} :
    s.Spelled p cs ↔ p.tokenAt? (cs.drop s.start) = some s.token := by
  rw [tokenAt?_eq_some_iff hp]
  exact and_congr_right fun _ ↦ exists_congr fun _ ↦ eq_comm

theorem Span.Spelled.start_lt_stop (hp : p.Delimited) {s : Span} (h : s.Spelled p cs) :
    s.start < s.stop :=
  Nat.lt_add_of_pos_right (List.length_pos_iff.mpr (h.1.spelling_ne_nil hp))

theorem Span.Spelled.eq_of_start_eq (hp : p.Delimited) {s u : Span} (hs : s.Spelled p cs)
    (hu : u.Spelled p cs) (h : s.start = u.start) : s = u := by
  rw [spelled_iff hp] at hs hu
  rw [h, hu] at hs
  obtain ⟨start, token⟩ := s
  obtain rfl : start = u.start := h
  obtain rfl : u.token = token := Option.some.inj hs
  rfl

theorem infix_iff_exists_spelled {t : Token} (ht : p.Fits t) :
    t.spelling <:+: cs ↔ ∃ i, Span.Spelled p cs ⟨i, t⟩ := by
  constructor
  · rintro ⟨before, after, rfl⟩
    refine ⟨before.length, ht, after, ?_⟩
    rw [List.append_assoc, List.drop_left]
  · rintro ⟨i, -, hprefix⟩
    exact hprefix.isInfix.trans (List.drop_suffix i cs).isInfix

theorem Span.Spelled.getElem? {s : Span} (h : s.Spelled p cs) {k : Nat}
    (hk : k < s.token.spelling.length) : cs[s.start + k]? = s.token.spelling[k]? := by
  obtain ⟨-, rest, hrest⟩ := h
  rw [← List.getElem?_drop, ← hrest, List.getElem?_append_left hk]

/-! ## Readings -/

/-- A choice of tokens that are apart, of which one that is not chosen overlaps an earlier one. -/
structure Reading (p : Pattern) (cs : List Char) (spans : List Span) : Prop where
  /-- The tokens are spelled where they are. -/
  spelled : ∀ s ∈ spans, Span.Spelled p cs s
  /-- They are listed from left to right and do not overlap. -/
  increasing : spans.Pairwise fun s u ↦ s.stop ≤ u.start
  /-- Where a token is spelled, there is one that has been chosen and begins no later. -/
  complete : ∀ s, Span.Spelled p cs s → ∃ u ∈ spans, u.Covers s.start

theorem reading_spans (hp : p.Delimited) (cs : List Char) : Reading p cs (p.spans cs) where
  spelled _ hs := (Span.spelled_iff hp).mpr (tokenAt?_of_mem_spans hp hs)
  increasing := pairwise_spans p cs
  complete s hs := by
    obtain ⟨u, hu, hcovers, -⟩ := exists_covers_of_tokenAt? hp ((Span.spelled_iff hp).mp hs)
    exact ⟨u, hu, hcovers⟩

namespace Reading

variable {spans others : List Span}

/-- A token of one reading is one of another reading if this holds of the tokens before it. -/
theorem mem_of_before (hp : p.Delimited) (h : Reading p cs spans) (h' : Reading p cs others)
    {s : Span} (hs : s ∈ spans) (hbefore : ∀ u ∈ others, u.start < s.start → u ∈ spans) :
    s ∈ others := by
  obtain ⟨u, hu, hcovers⟩ := h'.complete s (h.spelled s hs)
  rcases Nat.lt_or_eq_of_le hcovers.1 with hlt | heq
  · -- what is in the way of `s` would be in its way in the first reading as well
    rw [eq_of_covers_start (apart_of_pairwise h.increasing hs (hbefore u hu hlt)) hcovers hlt]
    exact hu
  · rw [(h.spelled s hs).eq_of_start_eq hp (h'.spelled u hu) heq.symm]
    exact hu

theorem mem_iff (hp : p.Delimited) (h : Reading p cs spans) (h' : Reading p cs others) (s : Span) :
    s ∈ spans ↔ s ∈ others := by
  induction hn : s.start using Nat.strong_induction_on generalizing s with
  | _ n ih =>
    subst hn
    exact ⟨fun hs ↦ mem_of_before hp h h' hs fun u hu hlt ↦ (ih u.start hlt u rfl).mpr hu,
      fun hs ↦ mem_of_before hp h' h hs fun u hu hlt ↦ (ih u.start hlt u rfl).mp hu⟩

theorem nodup (hp : p.Delimited) (h : Reading p cs spans) : spans.Nodup := by
  refine h.increasing.imp_of_mem fun {s u} hs _ hle heq ↦ ?_
  subst heq
  exact absurd ((h.spelled s hs).start_lt_stop hp) (Nat.not_lt.mpr hle)

end Reading

/-- **A text has one reading.** -/
theorem reading_iff_eq_spans (hp : p.Delimited) {spans : List Span} :
    Reading p cs spans ↔ spans = p.spans cs := by
  constructor
  · intro h
    have h' := reading_spans hp cs
    have hperm : spans.Perm (p.spans cs) :=
      (List.perm_ext_iff_of_nodup (h.nodup hp) (h'.nodup hp)).mpr (h.mem_iff hp h')
    refine hperm.eq_of_pairwise ?_ h.increasing h'.increasing
    intro s u hs hu hsu hus
    have hlt := (h.spelled s hs).start_lt_stop hp
    have hlt' := (h'.spelled u hu).start_lt_stop hp
    omega
  · rintro rfl
    exact reading_spans hp cs

/-! ## Text placeholders -/

/-- No text token begins inside another one: it would begin with the second `<` of the other one,
which no third one follows, or behind it, where there is none. -/
theorem Span.Spelled.eq_of_covers {s u : Span} (hs : s.Spelled (ofKind .text) cs)
    (hu : u.Spelled (ofKind .text) cs) (hcovers : u.Covers s.start) : s = u := by
  obtain ⟨c, inner, hspelling, -⟩ := exists_spelling_of_fits_text hs.1
  obtain ⟨c', inner', hspelling', hmarks⟩ := exists_spelling_of_fits_text hu.1
  have hfirst : cs[s.start]? = some '<' := by
    simpa [hspelling] using hs.getElem? (k := 0) (by simp [hspelling])
  have hsecond : cs[s.start + 1]? = some '<' := by
    simpa [hspelling] using hs.getElem? (k := 1) (by simp [hspelling])
  obtain ⟨hle, hlt⟩ := hcovers
  obtain ⟨d, hd⟩ := Nat.exists_eq_add_of_le hle
  rw [Span.stop, hd] at hlt
  rcases d with _ | _ | d
  · exact hs.eq_of_start_eq (delimited_ofKind .text) hu hd
  · have hthird : cs[s.start + 1]? = u.token.spelling[2]? := by
      rw [hd]
      exact hu.getElem? (k := 2) (by simp [hspelling'])
    rw [hsecond, hspelling'] at hthird
    exact absurd (Option.some.inj hthird).symm (hmarks c' List.mem_cons_self)
  · have hinner : cs[s.start]? = u.token.spelling[d + 2]? := by
      rw [hd]
      exact hu.getElem? (by omega)
    rw [hfirst, hspelling'] at hinner
    exact absurd rfl (hmarks '<' (List.mem_of_getElem? hinner.symm))

/-- A reading for text placeholders takes every token there is. -/
theorem mem_spans_text_iff {s : Span} :
    s ∈ (ofKind .text).spans cs ↔ s.Spelled (ofKind .text) cs := by
  have hreading := reading_spans (delimited_ofKind .text) cs
  constructor
  · exact hreading.spelled s
  · intro hs
    obtain ⟨u, hu, hcovers⟩ := hreading.complete s hs
    rw [hs.eq_of_covers (hreading.spelled u hu) hcovers]
    exact hu

end Pattern

namespace Placeholder

open Pattern

theorem mem_scan_text_iff {text name : String} :
    name ∈ Kind.text.scan text ↔
      ∃ before after : List Char, (∀ c ∈ before, Text.isBlank c = true) ∧
        (∀ c ∈ after, Text.isBlank c = true) ∧ name ≠ "" ∧
        (∀ c ∈ name.toList, Text.isNameChar c = true) ∧
        ['<', '<'] ++ before ++ name.toList ++ after ++ ['>', '>'] <:+: text.toList := by
  rw [Kind.mem_scan_iff]
  constructor
  · rintro ⟨s, hs, rfl⟩
    have hspelled := mem_spans_text_iff.mp hs
    have hinfix := (infix_iff_exists_spelled hspelled.1).mpr ⟨s.start, hspelled⟩
    obtain ⟨⟨hopening, hclosing, hne, hname, hbefore, hafter, -⟩, -⟩ := hspelled
    refine ⟨s.token.before, s.token.after, hbefore, hafter, ?_, ?_, ?_⟩
    · rwa [Ne, String.ofList_eq_empty_iff]
    · rwa [String.toList_ofList]
    · rwa [Token.spelling, hopening, hclosing, ← String.toList_ofList (l := s.token.name)] at hinfix
  · rintro ⟨before, after, hbefore, hafter, hne, hname, hinfix⟩
    let t : Token := ⟨['<', '<'], before, name.toList, after, ['>', '>']⟩
    have ht : (ofKind .text).Fits t :=
      ⟨rfl, rfl, fun hnil ↦ hne (String.toList_eq_nil_iff.mp hnil), hname, hbefore, hafter,
        fun h ↦ absurd h Bool.false_ne_true⟩
    obtain ⟨i, hspelled⟩ := (infix_iff_exists_spelled ht).mp hinfix
    exact ⟨⟨i, t⟩, mem_spans_text_iff.mpr hspelled, String.ofList_toList⟩

/-- **A scan accepts exactly its grammar.** It finds the names of a choice of tokens, each name
where it occurs first. The tokens are spelled in the text as the grammar of their kind asks for,
they are listed from left to right and do not overlap, and where any token is spelled, one has been
chosen that begins no later and reaches over this place. There is no other choice like this. For
text placeholders all tokens are chosen: a name is found exactly if it is spelled between their
delimiters anywhere in the text, with or without blanks around it. -/
theorem scan_grammar (k : Kind) (text : String) :
    (∃ spans : List Span,
      k.scan text = (spans.map fun s ↦ String.ofList s.token.name).eraseDups ∧
      spans.Pairwise (fun s u ↦ s.stop ≤ u.start) ∧
      (∀ s ∈ spans, (ofKind k).Fits s.token ∧ s.token.spelling <+: text.toList.drop s.start) ∧
      (∀ (t : Token) (i : Nat), (ofKind k).Fits t → t.spelling <+: text.toList.drop i →
        ∃ u ∈ spans, u.start ≤ i ∧ i < u.stop) ∧
      ∀ others, Reading (ofKind k) text.toList others → others = spans) ∧
    ∀ name, name ∈ Kind.text.scan text ↔
      ∃ before after : List Char, (∀ c ∈ before, Text.isBlank c = true) ∧
        (∀ c ∈ after, Text.isBlank c = true) ∧ name ≠ "" ∧
        (∀ c ∈ name.toList, Text.isNameChar c = true) ∧
        ['<', '<'] ++ before ++ name.toList ++ after ++ ['>', '>'] <:+: text.toList := by
  have hp := delimited_ofKind k
  have hreading := reading_spans hp text.toList
  refine ⟨⟨(ofKind k).spans text.toList, ?_, hreading.increasing, hreading.spelled,
    fun t i ht hprefix ↦ hreading.complete ⟨i, t⟩ ⟨ht, hprefix⟩,
    fun _ h ↦ (reading_iff_eq_spans hp).mp h⟩, fun _ ↦ mem_scan_text_iff⟩
  rw [Kind.scan, firstOccurrences_eq, ← map_token_spans, List.map_map]
  rfl

/-- What closes the first token would open the second, which is not taken, so the third one is. -/
example : Kind.file.scan "%% a %% b %% c %%" = ["a", "c"] := by decide +kernel

end Placeholder

end PromptLibrary
