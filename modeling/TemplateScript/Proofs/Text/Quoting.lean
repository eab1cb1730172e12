import Mathlib.Tactic.Common
import TemplateScript.Script.Lexeme

namespace TemplateScript

namespace Text

variable {c : Char} {cs ds : List Char}

lemma unescapeFrom_length (ds cs : List Char) : unescapeFrom ds.length (ds ++ cs) = unescapeFrom 0 cs := by
  induction ds with
  | nil => rfl
  | cons d ds ih => exact ih

lemma unescape_cons (h : c ≠ '\\') (cs : List Char) : unescape (c :: cs) = c :: unescape cs := by
  simp only [unescape]
  rw [unescapeFrom.eq_def]
  split <;> simp_all

lemma toDigits_control {n : Nat} (h : n < 160) :
    (∀ d ∈ Nat.toDigits 16 n, d.isAlphanum ∧ isControl d = false) ∧ readHex? (Nat.toDigits 16 n) = some n := by
  have hall : (List.range 160).all (fun n => (Nat.toDigits 16 n).all (fun d => d.isAlphanum && !isControl d) &&
      readHex? (Nat.toDigits 16 n) == some n) = true := by decide +kernel
  have hn := List.all_eq_true.1 hall n (List.mem_range.2 h)
  simpa only [Bool.and_eq_true, List.all_eq_true, Bool.not_eq_true', beq_iff_eq] using hn

lemma readHex?_toDigits {n : Nat} (h : n < 160) : readHex? (Nat.toDigits 16 n) = some n :=
  (toDigits_control h).2

lemma isAlphanum_of_mem_toDigits {n : Nat} (h : n < 160) {d : Char} (hd : d ∈ Nat.toDigits 16 n) : d.isAlphanum :=
  ((toDigits_control h).1 d hd).1

lemma isControl_of_mem_toDigits {n : Nat} (h : n < 160) {d : Char} (hd : d ∈ Nat.toDigits 16 n) : isControl d = false :=
  ((toDigits_control h).1 d hd).2

lemma toNat_lt_of_isControl (h : isControl c) : c.toNat < 160 := by
  simp only [isControl, Bool.or_eq_true, Bool.and_eq_true, decide_eq_true_eq] at h
  omega

lemma ofCodePoint?_toDigits (h : isControl c) : ofCodePoint? (Nat.toDigits 16 c.toNat) = some c := by
  have hvalid : c.toNat.isValidChar := c.valid
  rw [ofCodePoint?, readHex?_toDigits (toNat_lt_of_isControl h), Option.bind_some, if_pos hvalid, Char.ofNat_toNat]

lemma unescape_codePoint (h : isControl c) (cs : List Char) : unescape (codePoint c ++ cs) = c :: unescape cs := by
  have hdigits {d : Char} (hd : d ∈ Nat.toDigits 16 c.toNat) : (d != '}') = true := by
    have := isAlphanum_of_mem_toDigits (toNat_lt_of_isControl h) hd
    rw [bne_iff_ne]
    rintro rfl
    simp at this
  have hread := ofCodePoint?_toDigits h
  simp only [codePoint, List.cons_append, List.append_assoc, List.nil_append]
  generalize Nat.toDigits 16 c.toNat = ds at *
  have htake : (ds ++ '}' :: cs).takeWhile (· != '}') = ds := by
    rw [List.takeWhile_append_of_pos fun d hd => hdigits hd]
    simp
  simp only [unescape, unescapeFrom, htake, hread]
  rw [if_pos (by simp), ← unescapeFrom_length (ds ++ ['}']) cs, List.length_append, List.append_assoc]
  rfl

lemma unescape_quoteChar (c : Char) (cs : List Char) : unescape (quoteChar c ++ cs) = c :: unescape cs := by
  rw [quoteChar]
  repeat' split
  iterate 6
    · subst_vars
      rfl
  · next hcontrol => exact unescape_codePoint hcontrol cs
  · next hslash _ _ _ _ _ => exact unescape_cons hslash cs

lemma unescape_quoteContents (cs : List Char) : unescape (quoteContents cs) = cs := by
  induction cs with
  | nil => rfl
  | cons c cs ih =>
    rw [quoteContents, List.flatMap_cons, unescape_quoteChar]
    exact congrArg (c :: ·) ih

end Text

namespace Lexeme

open Text

variable {q : Char} {body ds rest : List Char}

lemma contents_close (hslash : q ≠ '\\') (cs : List Char) : contents q (q :: cs) = some ([], cs) := by
  rw [contents.eq_def]
  split <;> simp_all

lemma contents_cons {c : Char} (hslash : c ≠ '\\') (hq : c ≠ q) (cs : List Char) :
    contents q (c :: cs) = (contents q cs).map fun (body, rest) => (c :: body, rest) := by
  rw [contents.eq_def]
  split <;> simp_all

lemma ne_backslash {c : Char} {cs : List Char} (h1 : c = '\\' → cs = [] → False)
    (h2 : ∀ d ds, c = '\\' → cs = d :: ds → False) : c ≠ '\\' := by
  intro hc
  cases cs with
  | nil => exact h1 hc rfl
  | cons d ds => exact h2 d ds hc rfl

lemma contents_append {cs : List Char} (h : contents q cs = some (body, rest)) (more : List Char) :
    contents q (cs ++ more) = some (body, rest ++ more) := by
  fun_induction contents q cs generalizing body rest with
  | case1 => simp at h
  | case2 => simp at h
  | case3 c cs ih =>
    obtain ⟨⟨b, r⟩, hcs, heq⟩ := Option.map_eq_some_iff.1 h
    cases heq
    simp only [List.cons_append, contents, ih hcs, Option.map_some]
  | case4 cs h1 h2 =>
    obtain ⟨rfl, rfl⟩ := Prod.mk.inj (Option.some.inj h)
    exact contents_close (ne_backslash h1 h2) _
  | case5 c cs h1 h2 hne ih =>
    obtain ⟨⟨b, r⟩, hcs, heq⟩ := Option.map_eq_some_iff.1 h
    cases heq
    rw [List.cons_append, contents_cons (ne_backslash h1 h2) hne, ih hcs]
    rfl

lemma contents_plain (hds : ∀ d ∈ ds, d ≠ '\\' ∧ d ≠ q) (cs : List Char) :
    contents q (ds ++ cs) = (contents q cs).map fun (body, rest) => (ds ++ body, rest) := by
  induction ds with
  | nil => simp
  | cons d ds ih =>
    obtain ⟨hd, hds⟩ := List.forall_mem_cons.1 hds
    rw [List.cons_append, contents_cons hd.1 hd.2, ih hds, Option.map_map]
    rfl

lemma contents_codePoint {c : Char} (h : isControl c) (cs : List Char) :
    contents '"' (codePoint c ++ cs) = (contents '"' cs).map fun (body, rest) => (codePoint c ++ body, rest) := by
  have hplain : ∀ d ∈ '{' :: (Nat.toDigits 16 c.toNat ++ ['}']), d ≠ '\\' ∧ d ≠ '"' := by
    intro d hd
    rw [List.mem_cons, List.mem_append, List.mem_singleton] at hd
    obtain rfl | hd | rfl := hd
    · decide
    · have := isAlphanum_of_mem_toDigits (toNat_lt_of_isControl h) hd
      constructor <;> rintro rfl <;> simp at this
    · decide
  simp only [codePoint, List.cons_append] at hplain ⊢
  rw [contents, ← List.cons_append, contents_plain hplain, Option.map_map]
  rfl

lemma contents_escaped (q c : Char) (cs : List Char) : contents q ('\\' :: c :: cs) =
    (contents q cs).map fun (body, rest) => ('\\' :: c :: body, rest) := by
  rw [contents]

lemma quoteChar_cases (c : Char) : (∃ d, quoteChar c = ['\\', d]) ∨ isControl c ∧ quoteChar c = codePoint c ∨
    (c ≠ '"' ∧ c ≠ '\\') ∧ quoteChar c = [c] := by
  unfold quoteChar
  grind

lemma contents_quoteChar (c : Char) (cs : List Char) :
    contents '"' (quoteChar c ++ cs) = (contents '"' cs).map fun (body, rest) => (quoteChar c ++ body, rest) := by
  obtain ⟨d, h⟩ | ⟨hcontrol, h⟩ | ⟨⟨hquote, hslash⟩, h⟩ := quoteChar_cases c
  · rw [h]
    exact contents_escaped _ d cs
  · rw [h]
    exact contents_codePoint hcontrol cs
  · rw [h]
    exact contents_cons hslash hquote cs

lemma contents_quoteContents (cs rest : List Char) :
    contents '"' (quoteContents cs ++ '"' :: rest) = some (quoteContents cs, rest) := by
  induction cs with
  | nil => rfl
  | cons c cs ih =>
    rw [quoteContents, List.flatMap_cons, List.append_assoc, contents_quoteChar]
    exact congrArg (Option.map _) ih

lemma literalHere_quote (s : String) (rest : List Char) :
    literalHere ((quote s).toList ++ rest) = some ((s, quote s), rest) := by
  simp only [quote, String.toList_ofList, List.cons_append, List.append_assoc, List.nil_append, literalHere]
  rw [if_pos (by simp), contents_quoteContents, Option.map_some, unescape_quoteContents, String.ofList_toList]

lemma literalHere_append {cs : List Char} {x : String × String} (h : literalHere cs = some (x, rest))
    (more : List Char) : literalHere (cs ++ more) = some (x, rest ++ more) := by
  cases cs with
  | nil => simp [literalHere] at h
  | cons q cs =>
    simp only [literalHere, List.cons_append] at h ⊢
    split at h
    · next hq =>
      obtain ⟨⟨body, r⟩, hcs, heq⟩ := Option.map_eq_some_iff.1 h
      cases heq
      rw [if_pos hq, contents_append hcs]
      rfl
    · simp at h

end Lexeme

end TemplateScript
