import TemplateScript.Proofs.Text.Quoting

namespace TemplateScript

namespace Text

/-- The contents of a literal: any characters, where the quote and the backslash follow a backslash. -/
inductive Contents (q : Char) : List Char → Prop
  | empty : Contents q []
  | plain {c : Char} {cs : List Char} : c ≠ q → c ≠ '\\' → Contents q cs → Contents q (c :: cs)
  | escape (c : Char) {cs : List Char} : Contents q cs → Contents q ('\\' :: c :: cs)

def IsLiteral (text body : List Char) : Prop :=
  ∃ q, (q = '"' ∨ q = '\'') ∧ Contents q body ∧ text = q :: body ++ [q]

lemma isControl_of_mem_codePoint {c d : Char} (h : isControl c) (hd : d ∈ codePoint c) : isControl d = false := by
  simp only [codePoint, List.cons_append, List.mem_cons, List.mem_append, List.not_mem_nil, or_false] at hd
  rcases hd with rfl | rfl | rfl | hd | rfl
  iterate 3
    · decide
  · exact isControl_of_mem_toDigits (toNat_lt_of_isControl h) hd
  · decide

lemma isControl_of_mem_quoteChar {c d : Char} (hd : d ∈ quoteChar c) : isControl d = false := by
  rw [quoteChar] at hd
  repeat' split at hd
  iterate 6
    · simp only [List.mem_cons, List.not_mem_nil, or_false] at hd
      rcases hd with rfl | rfl <;> decide
  · next hcontrol => exact isControl_of_mem_codePoint hcontrol hd
  · next hcontrol =>
    obtain rfl := List.mem_singleton.1 hd
    exact Bool.eq_false_iff.2 hcontrol

lemma isControl_of_mem_quoteContents {cs : List Char} {d : Char} (hd : d ∈ quoteContents cs) : isControl d = false := by
  obtain ⟨c, -, hc⟩ := List.mem_flatMap.1 hd
  exact isControl_of_mem_quoteChar hc

end Text

namespace Lexeme

open Text

variable {q : Char} {body cs rest text : List Char}

lemma contents_of_contents (hslash : q ≠ '\\') (h : Contents q body) (rest : List Char) :
    contents q (body ++ q :: rest) = some (body, rest) := by
  induction h with
  | empty => exact contents_close hslash rest
  | plain hq hc _ ih =>
    rw [List.cons_append, contents_cons hc hq, ih]
    rfl
  | escape c _ ih =>
    rw [List.cons_append, List.cons_append, contents_escaped, ih]
    rfl

lemma contents_sound (h : contents q cs = some (body, rest)) : Contents q body ∧ cs = body ++ q :: rest := by
  fun_induction contents q cs generalizing body rest with
  | case1 => cases h
  | case2 => cases h
  | case3 c cs ih =>
    obtain ⟨⟨b, r⟩, hcs, heq⟩ := Option.map_eq_some_iff.1 h
    cases heq
    obtain ⟨hb, rfl⟩ := ih hcs
    exact ⟨.escape c hb, rfl⟩
  | case4 cs h1 h2 =>
    obtain ⟨rfl, rfl⟩ := Prod.mk.inj (Option.some.inj h)
    exact ⟨.empty, rfl⟩
  | case5 c cs h1 h2 hne ih =>
    obtain ⟨⟨b, r⟩, hcs, heq⟩ := Option.map_eq_some_iff.1 h
    cases heq
    obtain ⟨hb, rfl⟩ := ih hcs
    exact ⟨.plain hne (ne_backslash h1 h2) hb, rfl⟩

lemma literalHere_eq_some_iff {x : String × String} : literalHere cs = some (x, rest) ↔
    ∃ text body, IsLiteral text body ∧ cs = text ++ rest ∧ x = (String.ofList (unescape body), String.ofList text) := by
  constructor
  · intro h
    cases cs with
    | nil => cases h
    | cons q cs =>
      rw [literalHere] at h
      split at h
      · next hq =>
        obtain ⟨⟨body, r⟩, hcs, heq⟩ := Option.map_eq_some_iff.1 h
        cases heq
        obtain ⟨hb, rfl⟩ := contents_sound hcs
        exact ⟨_, body, ⟨q, hq, hb, rfl⟩, by simp, rfl⟩
      · cases h
  · rintro ⟨_, body, ⟨q, hq, hb, rfl⟩, rfl, rfl⟩
    have hslash : q ≠ '\\' := by rcases hq with rfl | rfl <;> decide
    rw [List.append_assoc, List.cons_append, List.singleton_append, literalHere, if_pos hq,
      contents_of_contents hslash hb]
    rfl

end Lexeme

namespace Text

open Lexeme

lemma IsLiteral.eq_of_isPrefix {text text' body body' : List Char} (h : IsLiteral text body)
    (h' : IsLiteral text' body') (hp : text <+: text') : text = text' := by
  obtain ⟨more, rfl⟩ := hp
  have hread := literalHere_eq_some_iff.2 ⟨text, body, h, Eq.refl (text ++ more), rfl⟩
  have hread' := literalHere_eq_some_iff.2 ⟨text ++ more, body', h', (List.append_nil _).symm, rfl⟩
  have hmore : more = [] := congrArg Prod.snd (Option.some.inj (hread.symm.trans hread'))
  rw [hmore, List.append_nil]

lemma isLiteral_quote (s : String) : IsLiteral (quote s).toList (quoteContents s.toList) := by
  have hread := contents_quoteContents s.toList []
  exact ⟨'"', .inl rfl, (contents_sound hread).1, String.toList_ofList⟩

/-- A quoted text is one literal and no part of it is one before its end. No control character stands in it, and it is
decoded to the text. -/
theorem quote_sealed (s : String) :
    ∃ body, IsLiteral (quote s).toList body ∧ (∀ c ∈ body, isControl c = false) ∧ unescape body = s.toList ∧
      (∀ rest, literalHere ((quote s).toList ++ rest) = some ((s, quote s), rest)) ∧
      ∀ part, part <+: (quote s).toList → part ≠ (quote s).toList →
        (∀ body', ¬ IsLiteral part body') ∧ literalHere part = none := by
  refine ⟨quoteContents s.toList, isLiteral_quote s, fun c hc => isControl_of_mem_quoteContents hc,
    unescape_quoteContents _, literalHere_quote s, ?_⟩
  intro part hp hne
  constructor
  · intro body' h
    exact hne (h.eq_of_isPrefix (isLiteral_quote s) hp)
  · by_contra hread
    obtain ⟨⟨x, rest⟩, hread⟩ := Option.ne_none_iff_exists'.1 hread
    obtain ⟨text, body, h, rfl, -⟩ := literalHere_eq_some_iff.1 hread
    have hwhole := h.eq_of_isPrefix (isLiteral_quote s) ((List.prefix_append _ _).trans hp)
    apply hne
    rw [← hwhole] at hp ⊢
    exact hp.eq_of_length_le (by simp)

theorem quote_sealed_escapes :
    let s := "\"\\\x00"
    let part := ['"', '\\', '"']
    part <+: (quote s).toList ∧ part ≠ (quote s).toList ∧ (∀ body', ¬ IsLiteral part body') ∧
      literalHere part = none := by
  intro s part
  have hp : part <+: (quote s).toList := by decide
  have hne : part ≠ (quote s).toList := by decide
  obtain ⟨body, -, -, -, -, hpart⟩ := quote_sealed s
  exact ⟨hp, hne, hpart part hp hne⟩

end Text

end TemplateScript
