import Mathlib.Data.List.Forall2
import TemplateScript.Proofs.Number.ReadBack
import TemplateScript.Proofs.Text.Quoting
import TemplateScript.Script.Printer

/-!
The words of a printed text are read back one by one. What follows a word has to stand apart from it, and blanks
in front of a word are passed over.
-/

namespace TemplateScript

namespace Lexeme

variable {c : Char} {cs ds rest : List Char}

def isSolid (c : Char) : Bool := c != ' ' && c != '\t' && c != '\r' && c != '\n' && c != '/'

@[simp]
lemma skip_space (cs : List Char) : skip (' ' :: cs) = skip cs := by rw [skip]

@[simp]
lemma skip_newline (cs : List Char) : skip ('\n' :: cs) = skip cs := by rw [skip]

lemma skip_cons (h : isSolid c) (cs : List Char) : skip (c :: cs) = c :: cs := by
  simp only [isSolid, Bool.and_eq_true, bne_iff_ne] at h
  rw [skip.eq_def]
  split <;> simp_all

lemma skip_slash (h1 : c ≠ '/') (h2 : c ≠ '*') (cs : List Char) : skip ('/' :: c :: cs) = '/' :: c :: cs := by
  rw [skip.eq_def]
  split <;> simp_all

lemma isSolid_of_isNameStart (h : isNameStart c) : isSolid c := by
  by_contra hc
  simp only [isSolid, Bool.and_eq_true, bne_iff_ne, not_and_or, not_not] at hc
  rcases hc with (((rfl | rfl) | rfl) | rfl) | rfl <;> exact absurd h (by decide)

def next? (cs : List Char) : Option Char := (skip cs).head?

lemma next?_cons (h : isSolid c) (cs : List Char) : next? (c :: cs) = some c := by
  rw [next?, skip_cons h]
  rfl

lemma next?_space (cs : List Char) : next? (' ' :: cs) = next? cs := by rw [next?, skip_space, next?]

def Blind {β : Type} (p : List Char → β) : Prop := ∀ c cs, c = ' ' ∨ c = '\n' → p (c :: cs) = p cs

lemma blind_skip {β : Type} (f : List Char → β) : Blind fun cs => f (skip cs) := by
  rintro c cs (rfl | rfl) <;> simp

lemma Blind.append {β : Type} {p : List Char → β} (hp : Blind p) {bs : List Char} (hbs : ∀ c ∈ bs, c = ' ' ∨ c = '\n')
    (cs : List Char) : p (bs ++ cs) = p cs := by
  induction bs with
  | nil => rfl
  | cons b bs ih =>
    obtain ⟨hb, hbs⟩ := List.forall_mem_cons.1 hbs
    rw [List.cons_append, hp b _ hb, ih hbs]

lemma Blind.space {β : Type} {p : List Char → β} (hp : Blind p) (cs : List Char) : p (' ' :: cs) = p cs :=
  hp ' ' cs (.inl rfl)

lemma Blind.newline {β : Type} {p : List Char → β} (hp : Blind p) (cs : List Char) : p ('\n' :: cs) = p cs :=
  hp '\n' cs (.inr rfl)

lemma blind_symbol (s : String) : Blind (symbol s) := blind_skip _

lemma blind_propertyName : Blind propertyName := blind_skip _

lemma blind_identifier : Blind identifier :=
  blind_skip fun cs => (word isNameStart isNameChar cs).bind fun x => if reserved.contains x.1 then none else some x

lemma blind_keyword (s : String) : Blind (keyword s) :=
  blind_skip fun cs => (word isNameStart isNameChar cs).bind fun x => if x.1 = s then some x.2 else none

lemma blind_stringLiteral : Blind stringLiteral := blind_skip _

lemma blind_attributeName : Blind attributeName := blind_skip _

lemma symbol_eq_none {s : String} {p : List Char} (hs : s.toList = c :: p) (h : next? cs ≠ some c) :
    symbol s cs = none := by
  rw [next?] at h
  rw [symbol, hs]
  cases hcs : skip cs with
  | nil => rfl
  | cons d ds =>
    rw [hcs] at h
    rw [strip?, if_neg]
    rintro rfl
    exact h rfl

section Words

variable {p start more : Char → Bool} {s name : String}

def Breaks (p : Char → Bool) (cs : List Char) : Prop := ∀ c ∈ cs.head?, p c = false

lemma takeWhile_append_breaks (hds : ∀ d ∈ ds, p d) (hcs : Breaks p cs) : (ds ++ cs).takeWhile p = ds := by
  rw [List.takeWhile_append_of_pos hds]
  cases cs with
  | nil => simp
  | cons c cs => simp [hcs c rfl]

lemma dropWhile_append_breaks (hds : ∀ d ∈ ds, p d) (hcs : Breaks p cs) : (ds ++ cs).dropWhile p = cs := by
  rw [List.dropWhile_append_of_pos hds]
  cases cs with
  | nil => rfl
  | cons c cs => simp [hcs c rfl]

lemma word_append (h : isWord start more s.toList) (hrest : Breaks more rest) :
    word start more (s.toList ++ rest) = some (s, rest) := by
  cases hs : s.toList with
  | nil => simp [hs, isWord] at h
  | cons c cs =>
    rw [hs, isWord, Bool.and_eq_true, List.all_eq_true] at h
    rw [List.cons_append, word, if_pos h.1, takeWhile_append_breaks h.2 hrest, dropWhile_append_breaks h.2 hrest, ← hs,
      String.ofList_toList]

def Apart : List Char → Prop
  | [] => True
  | '.' :: c :: _ => c.isDigit = false
  | c :: _ => isNameChar c = false

lemma isNameChar_of_isDigit (h : c.isDigit) : isNameChar c := by simp [isNameChar, Char.isAlphanum, h]

lemma Apart.breaks (h : Apart cs) : Breaks isNameChar cs := by
  rintro c hc
  unfold Apart at h
  split at h
  · simp at hc
  · cases hc
    rfl
  · cases hc
    exact h

lemma Apart.breaks_isDigit (h : Apart cs) : Breaks Char.isDigit cs := by
  intro c hc
  have := h.breaks c hc
  by_contra hdigit
  rw [isNameChar_of_isDigit (by simpa using hdigit)] at this
  simp at this

lemma apart_cons (h : isNameChar c = false) (hdot : c ≠ '.') (cs : List Char) : Apart (c :: cs) := by
  unfold Apart
  split <;> simp_all

lemma isNameStart_head (h : isName s) : ∃ c cs, s.toList = c :: cs ∧ isNameStart c := by
  rw [isName] at h
  cases hs : s.toList with
  | nil => simp [hs, isWord] at h
  | cons c cs =>
    rw [hs, isWord, Bool.and_eq_true] at h
    exact ⟨c, cs, rfl, h.1⟩

lemma isDigit_of_isNameStart (h : isNameStart c) : c.isDigit = false := by
  simp only [isNameStart, Bool.or_eq_true, beq_iff_eq] at h
  rcases h with (h | rfl) | rfl
  · have halpha : c.isAlpha = (decide ('A'.val ≤ c.val ∧ c.val ≤ 'Z'.val) || ('a'.val ≤ c.val && c.val ≤ 'z'.val)) :=
      rfl
    simp only [halpha, Bool.or_eq_true, Bool.and_eq_true, decide_eq_true_eq, UInt32.le_iff_toNat_le] at h
    simp only [Char.isDigit, Bool.and_eq_false_iff, decide_eq_false_iff_not, ge_iff_le, UInt32.le_iff_toNat_le]
    right
    have h9 : '9'.val.toNat = 57 := rfl
    have hA : 'A'.val.toNat = 65 := rfl
    have ha : 'a'.val.toNat = 97 := rfl
    omega
  · rfl
  · rfl

lemma apart_dot (h : isName s) (cs : List Char) : Apart ('.' :: (s.toList ++ cs)) := by
  obtain ⟨c, ds, hs, hc⟩ := isNameStart_head h
  rw [hs]
  exact isDigit_of_isNameStart hc

lemma skip_name (h : isName s) (rest : List Char) : skip (s.toList ++ rest) = s.toList ++ rest := by
  obtain ⟨c, cs, hs, hc⟩ := isNameStart_head h
  rw [hs]
  exact skip_cons (isSolid_of_isNameStart hc) _

lemma propertyName_append (h : isName s) (hrest : Apart rest) : propertyName (s.toList ++ rest) = some (s, rest) := by
  rw [propertyName, skip_name h]
  exact word_append h hrest.breaks

lemma propertyName_eq_none (h : ∀ c ∈ next? cs, isNameStart c = false) : propertyName cs = none := by
  rw [next?] at h
  rw [propertyName]
  cases hcs : skip cs with
  | nil => rfl
  | cons c cs =>
    rw [hcs] at h
    rw [word, if_neg]
    simp [h c rfl]

lemma isIdentifier_iff : isIdentifier s ↔ isName s ∧ s ∉ reserved := by simp [isIdentifier]

lemma identifier_append (h : isIdentifier s) (hrest : Apart rest) : identifier (s.toList ++ rest) = some (s, rest) := by
  obtain ⟨hname, hs⟩ := isIdentifier_iff.1 h
  simp [identifier, propertyName_append hname hrest, hs]

lemma identifier_eq_none (h : ∀ c ∈ next? cs, isNameStart c = false) : identifier cs = none := by
  simp [identifier, propertyName_eq_none h]

lemma keyword_append (h : isName s) (hrest : Apart rest) : keyword s (s.toList ++ rest) = some rest := by
  simp [keyword, propertyName_append h hrest]

lemma keyword_of_ne (h : isName name) (hrest : Apart rest) (hne : name ≠ s) :
    keyword s (name.toList ++ rest) = none := by
  simp [keyword, propertyName_append h hrest, hne]

lemma keyword_eq_none (h : ∀ c ∈ next? cs, isNameStart c = false) : keyword s cs = none := by
  simp [keyword, propertyName_eq_none h]

end Words

lemma isSolid_of_isDigit (h : c.isDigit) : isSolid c := by
  by_contra hc
  simp only [isSolid, Bool.and_eq_true, bne_iff_ne, not_and_or, not_not] at hc
  rcases hc with (((rfl | rfl) | rfl) | rfl) | rfl <;> exact absurd h (by decide)

lemma skip_digits (hne : ds ≠ []) (hds : ∀ d ∈ ds, d.isDigit) (cs : List Char) : skip (ds ++ cs) = ds ++ cs := by
  obtain ⟨d, ds, rfl⟩ := List.exists_cons_of_ne_nil hne
  exact skip_cons (isSolid_of_isDigit (hds d (by simp))) _

lemma number_append {x : Number} (h : Number.Numeral x cs) (hrest : Apart rest) :
    number (cs ++ rest) = some (x, rest) := by
  have hbreaks := hrest.breaks_isDigit
  cases h with
  | whole hne hds hx =>
    simp only [number]
    rw [skip_digits hne hds, takeWhile_append_breaks hds hbreaks, dropWhile_append_breaks hds hbreaks,
      if_neg (by simpa using hne), if_pos, hx]
    -- No digit follows a point that follows the numeral.
    split
    · next cs =>
      cases cs with
      | nil => rfl
      | cons c cs =>
        have : c.isDigit = false := hrest
        simp [this]
    · rfl
  | fraction hws hfs hwhole hfraction hx =>
    simp only [number, List.append_assoc, List.cons_append]
    have hdot : Breaks Char.isDigit ('.' :: (‹List Char› ++ rest)) := by
      rintro c hc
      cases hc
      rfl
    rw [skip_digits hws hwhole, takeWhile_append_breaks hwhole hdot, dropWhile_append_breaks hwhole hdot,
      if_neg (by simpa using hws)]
    simp only
    rw [takeWhile_append_breaks hfraction hbreaks, if_neg (by simpa using hfs), hx]
    simp

lemma isSolid_of_quote (h : c = '"' ∨ c = '\'') : isSolid c := by
  rcases h with rfl | rfl <;> rfl

lemma stringLiteral_append {x : String × String} (h : literalHere cs = some (x, [])) (rest : List Char) :
    stringLiteral (cs ++ rest) = some (x, rest) := by
  have happend := literalHere_append h rest
  rw [List.nil_append] at happend
  rw [stringLiteral]
  cases cs with
  | nil => simp [literalHere] at h
  | cons q cs =>
    have hq : q = '"' ∨ q = '\'' := by
      by_contra hq
      simp [literalHere, hq] at h
    rwa [List.cons_append, skip_cons (isSolid_of_quote hq)]

lemma stringLiteral_eq_none (h : ∀ c ∈ next? cs, c ≠ '"' ∧ c ≠ '\'') : stringLiteral cs = none := by
  rw [next?] at h
  rw [stringLiteral]
  cases hcs : skip cs with
  | nil => rfl
  | cons c cs =>
    rw [hcs] at h
    rw [literalHere, if_neg]
    have := h c rfl
    simp [this.1, this.2]

end Lexeme

section Lists

open Lexeme

variable {α : Type} {p : Reader α} {P : List Char → Prop} {n k : Nat} {ts : List String} {vs : List α}
  {close : List Char}

lemma Printer.joinWith_cons (sep t : String) (ts : List String) : (joinWith sep (t :: ts)).toList =
    t.toList ++ ts.flatMap fun t => sep.toList ++ t.toList := by
  induction ts generalizing t with
  | nil => simp [joinWith]
  | cons u ts ih => simp [joinWith, ih u]

lemma Reader.many_comma (hp : Blind p) (hcomma : ∀ cs, P (',' :: cs)) (hclose : P close)
    (hend : symbol "," close = none)
    (h : List.Forall₂ (fun t v => t.toList.length < k → ∀ r, P r → p (t.toList ++ r) = some (v, r)) ts vs)
    (hk : (ts.flatMap fun t => ", ".toList ++ t.toList).length < k)
    (hn : (ts.flatMap fun t => ", ".toList ++ t.toList).length ≤ n) :
    many (fun cs => (symbol "," cs).bind p) n ((ts.flatMap fun t => ", ".toList ++ t.toList) ++ close) =
      some (vs, close) := by
  induction h generalizing n with
  | nil =>
    cases n with
    | zero => rfl
    | succ n => simp [many, hend]
  | @cons t v ts vs ht _ ih =>
    have hsep : ", ".toList.length = 2 := rfl
    rw [List.flatMap_cons, List.length_append, List.length_append, hsep] at hk hn
    obtain ⟨n, rfl⟩ : ∃ m, n = m + 1 := ⟨n - 1, by omega⟩
    have hrest : P ((ts.flatMap fun t => ", ".toList ++ t.toList) ++ close) := by
      cases ts with
      | nil => exact hclose
      | cons u ts => exact hcomma _
    have hread : (symbol "," (((t :: ts).flatMap fun t => ", ".toList ++ t.toList) ++ close)).bind p =
        some (v, (ts.flatMap fun t => ", ".toList ++ t.toList) ++ close) := by
      rw [List.flatMap_cons, List.append_assoc, List.append_assoc]
      refine Eq.trans ?_ (ht (by omega) _ hrest)
      exact hp.space _
    rw [many, hread]
    simp only [ih (n := n) (by omega) (by omega), Option.map_some]

lemma Reader.commaSeparated_join (hp : Blind p) (hcomma : ∀ cs, P (',' :: cs)) (hclose : P close)
    (hend : symbol "," close = none) (hnone : p close = none)
    (h : List.Forall₂ (fun t v => t.toList.length < k → ∀ r, P r → p (t.toList ++ r) = some (v, r)) ts vs)
    (hk : (Printer.joinWith ", " ts).toList.length < k) (hn : (Printer.joinWith ", " ts).toList.length ≤ n) :
    commaSeparated p n ((Printer.joinWith ", " ts).toList ++ close) = some (vs, close) := by
  cases h with
  | nil => simp [commaSeparated, Printer.joinWith, hnone]
  | @cons t v ts vs ht hts =>
    rw [Printer.joinWith_cons, List.length_append] at hk hn
    have hrest : P ((ts.flatMap fun t => ", ".toList ++ t.toList) ++ close) := by
      cases ts with
      | nil => exact hclose
      | cons u ts => exact hcomma _
    rw [commaSeparated, Printer.joinWith_cons, List.append_assoc, ht (by omega) _ hrest]
    simp only [many_comma hp hcomma hclose hend hts (n := n) (by omega) (by omega), hend, Option.bind_eq_bind,
      Option.bind_some, Option.getD_none, Option.pure_def]

lemma Reader.commaSeparated_space (hp : Blind p) {cs rest : List Char} {v : α}
    (h : commaSeparated p n cs = some (v :: vs, rest)) : commaSeparated p n (' ' :: cs) = some (v :: vs, rest) := by
  cases hcs : p cs with
  | none => simp [commaSeparated, hcs] at h
  | some result =>
    rw [← h]
    simp only [commaSeparated, hp.space, hcs]

end Lists

end TemplateScript
