import TemplateScript.Proofs.Script.Operands

/-!
How printed expressions begin. The first word of an expression decides which readers fail on it: the text of no
expression but a function is read as a function, and no expression begins with a word that starts a statement.
-/

namespace TemplateScript

open Lexeme Printer TemplateScript.Parser

section Opening

variable {c : Char} {cs : List Char}

def isOpening (c : Char) : Bool := isNameStart c || c.isDigit || "\"'[\x7b<!(".toList.contains c

def isMark (c : Char) : Bool := c.isDigit || "\"'[\x7b<!".toList.contains c

lemma isOpening_of_isMark (h : isMark c) : isOpening c := by
  simp only [isMark, isOpening, Bool.or_eq_true, List.contains_iff_mem] at h ⊢
  rcases h with h | h
  · exact .inl (.inr h)
  · exact .inr (by simp at h ⊢; tauto)

lemma isNameStart_of_isMark (h : isMark c) : isNameStart c = false := by
  simp only [isMark, Bool.or_eq_true, List.contains_iff_mem] at h
  rcases h with h | h
  · by_contra hname
    rw [isDigit_of_isNameStart (by simpa using hname)] at h
    simp at h
  · simp at h
    rcases h with rfl | rfl | rfl | rfl | rfl | rfl <;> rfl

lemma isSolid_of_isOpening (h : isOpening c) : isSolid c := by
  by_contra hc
  simp only [isSolid, Bool.and_eq_true, bne_iff_ne, not_and_or, not_not] at hc
  rcases hc with (((rfl | rfl) | rfl) | rfl) | rfl <;> exact absurd h (by decide)

end Opening

namespace BinaryOp

def place : BinaryOp → Place
  | .add => .add
  | .strictEq | .strictNe => .equality
  | .and => .and
  | .or => .or

lemma place_level (op : BinaryOp) : op.place.level = op.precedence := by cases op <;> rfl

lemma mem_ops_place (op : BinaryOp) : op ∈ op.place.ops := by cases op <;> decide

end BinaryOp

namespace Expr

def place : Expr → Place
  | .arrow .. => .whole
  | .conditional .. => .conditional
  | .binary op .. => op.place
  | .not _ => .unary
  | _ => .postfixed

lemma eq_arrow {e : Expr} (h : e.place = .whole) : ∃ params body, e = .arrow params body := by
  cases e with
  | arrow params body => exact ⟨params, body, rfl⟩
  | binary op => cases op <;> simp [place, BinaryOp.place] at h
  | _ => simp [place] at h

def text (tabs : Nat) (e : Expr) : List Char := (expression 0 tabs e).toList

def operandText (p : Place) (tabs : Nat) (e : Expr) : List Char := (expression p.level tabs e).toList

lemma expression_eq_enclose (e : Expr) {min : Nat} (hmin : min ≤ 18) (tabs : Nat) :
    expression min tabs e = enclose min e.place.level (expression 0 tabs e) := by
  have hzero (level : Nat) (s : String) : enclose 0 level s = s := if_neg (by omega)
  have hplain (s : String) : enclose min 18 s = s := if_neg (by omega)
  cases e with
  | object parts => cases parts <;> simp only [expression, place, Place.level, hplain]
  | not => simp only [expression, place, Place.level, unaryLevel, hzero]
  | binary op => simp only [expression, place, op.place_level, hzero]
  | conditional => simp only [expression, place, Place.level, conditionalLevel, hzero]
  | arrow => simp only [expression, place, Place.level, arrowLevel, hzero]
  | _ => simp only [expression, place, Place.level, hplain]

lemma toList_expression (e : Expr) {min : Nat} (hmin : min ≤ 18) (tabs : Nat) :
    (expression min tabs e).toList = if e.place.level < min then '(' :: (e.text tabs ++ [')']) else e.text tabs := by
  rw [expression_eq_enclose e hmin, enclose]
  split <;> simp [text]

lemma operandText_eq (p : Place) (tabs : Nat) (e : Expr) :
    e.operandText p tabs = if e.place.level < p.level then '(' :: (e.text tabs ++ [')']) else e.text tabs :=
  e.toList_expression (by cases p <;> decide) tabs

lemma expression_arrowLevel (tabs : Nat) (e : Expr) : expression arrowLevel tabs e = expression 0 tabs e := by
  rw [expression_eq_enclose e (by decide), enclose, if_neg]
  cases h : e.place <;> decide

lemma expression_right (op : BinaryOp) (tabs : Nat) (e : Expr) :
    (expression (op.precedence + 1) tabs e).toList = e.operandText op.place.above tabs := by
  rw [operandText_eq, toList_expression e (by cases op <;> decide)]
  cases op <;> cases e.place <;> rfl

section Texts

variable (tabs : Nat)

lemma text_member (object : Expr) (name : String) :
    (Expr.member object name).text tabs = object.operandText .postfixed tabs ++ '.' :: name.toList := by
  simp [text, operandText, expression, Place.level, postfixLevel]

lemma text_index (object index : Expr) :
    (Expr.index object index).text tabs = object.operandText .postfixed tabs ++ '[' :: (index.text tabs ++ [']']) := by
  simp [text, operandText, expression, Place.level, postfixLevel]

lemma text_call (callee : Expr) (arguments : List Item) : (Expr.call callee arguments).text tabs =
    callee.operandText .postfixed tabs ++ '(' :: ((joinWith ", " (items tabs arguments)).toList ++ [')']) := by
  simp [text, operandText, expression, Place.level, postfixLevel]

lemma text_not (operand : Expr) : (Expr.not operand).text tabs = '!' :: operand.operandText .unary tabs := by
  simp [text, operandText, expression, Place.level, unaryLevel, enclose]

lemma text_binary (op : BinaryOp) (left right : Expr) : (Expr.binary op left right).text tabs =
    left.operandText op.place tabs ++ ' ' :: (op.symbol.toList ++ ' ' :: right.operandText op.place.above tabs) := by
  rw [← expression_right]
  simp [text, operandText, expression, op.place_level, enclose]

lemma text_conditional (test consequent alternate : Expr) : (Expr.conditional test consequent alternate).text tabs =
    test.operandText .or tabs ++ ' ' :: '?' :: ' ' ::
      (consequent.text tabs ++ ' ' :: ':' :: ' ' :: alternate.text tabs) := by
  simp [text, operandText, expression, Place.level, conditionalLevel, enclose, expression_arrowLevel]

lemma text_arrow (params : List String) (body : Body) : (Expr.arrow params body).text tabs =
    '(' :: ((joinWith ", " params).toList ++ ')' :: ' ' :: '=' :: '>' :: ' ' :: (function tabs body).toList) := by
  simp [text, expression, enclose]

end Texts

end Expr

def statementWords : List String := ["const", "let", "if", "else", "for", "return", "import"]

lemma notMem_statementWords {name : String} (h : name ∉ reserved) : name ∉ statementWords := by
  simp only [reserved, statementWords, List.mem_cons, not_or] at h ⊢
  tauto

structure GoesOn (cs : List Char) : Prop where
  apart : Apart cs
  arrow : symbol "=>" cs = none
  comma : symbol "," cs = none
  close : symbol ")" cs = none

/-- How the text of an expression begins that is no function, where `r` follows the expression. -/
inductive Leads (p : Place) (r : List Char) : List Char → Prop
  | mark {c : Char} {cs : List Char} : isMark c → (p = .postfixed → c ≠ '!') → Leads p r (c :: cs)
  | group {cs : List Char} : (∀ n, Grammar.params n ('(' :: cs) = none) → Leads p r ('(' :: cs)
  | word (name : String) {rest : List Char} : isName name → name ∉ statementWords → Apart rest →
    p = .postfixed ∧ rest = r ∨ GoesOn rest → Leads p r (name.toList ++ rest)

namespace Leads

variable {p q : Place} {r r' cs : List Char}

lemma isOpening (h : Leads p r cs) : ∃ c ds, cs = c :: ds ∧ isOpening c := by
  cases h with
  | mark hc => exact ⟨_, _, rfl, isOpening_of_isMark hc⟩
  | group => exact ⟨_, _, rfl, rfl⟩
  | word name hname =>
    obtain ⟨c, ds, hs, hc⟩ := isNameStart_head hname
    exact ⟨c, ds ++ _, by rw [hs]; rfl, by simp [TemplateScript.isOpening, hc]⟩

lemma extend (h : Leads p r' cs) (hr : GoesOn r') (hq : q = .postfixed → p = .postfixed) : Leads q r cs := by
  cases h with
  | mark hc hsign => exact .mark hc fun h => hsign (hq h)
  | group hparams => exact .group hparams
  | word name hname hwords hrest hgoes =>
    refine .word _ hname hwords hrest (.inr ?_)
    rcases hgoes with ⟨-, rfl⟩ | hgoes
    · exact hr
    · exact hgoes

lemma params_eq_none_of_identifier {n : Nat} (hname : identifier cs = none) (hclose : symbol ")" cs = none) :
    Grammar.params n ('(' :: cs) = none := by
  have h1 : symbol "(" ('(' :: cs) = some cs := rfl
  have h2 : identifier ('(' :: cs) = none := identifier_eq_none (by rw [next?_cons rfl]; simp [isNameStart])
  simp [Grammar.params, h1, h2, hname, hclose]

lemma params_eq_none (h : Leads p (')' :: r) cs) (hp : p ≠ .postfixed) (n : Nat) :
    Grammar.params n ('(' :: cs) = none := by
  cases h with
  | @mark c cs hc =>
    have hnext : next? (c :: cs) = some c := next?_cons (isSolid_of_isOpening (isOpening_of_isMark hc)) cs
    refine params_eq_none_of_identifier (identifier_eq_none ?_) (symbol_eq_none (c := ')') rfl ?_)
    · rw [hnext]
      rintro d ⟨⟩
      exact isNameStart_of_isMark hc
    · rw [hnext]
      rintro ⟨⟩
      simp [isMark] at hc
  | group => exact params_eq_none_of_identifier (identifier_eq_none (by rw [next?_cons rfl]; simp [isNameStart])) rfl
  | @word name rest hname _ hrest hgoes =>
    obtain ⟨hpostfixed, -⟩ | hgoes := hgoes
    · exact absurd hpostfixed hp
    · obtain ⟨c, ds, hs, hc⟩ := isNameStart_head hname
      have h1 : symbol "(" ('(' :: (name.toList ++ rest)) = some (name.toList ++ rest) := rfl
      have h2 : identifier ('(' :: (name.toList ++ rest)) = none :=
        identifier_eq_none (by rw [next?_cons rfl]; simp [isNameStart])
      by_cases hid : isIdentifier name
      · have hmany (n : Nat) : Reader.many (fun cs => (symbol "," cs).bind identifier) n rest = some ([], rest) := by
          cases n <;> simp [Reader.many, hgoes.comma]
        simp [Grammar.params, h1, h2, identifier_append hid hrest, hmany, hgoes.close]
      · have hnone : identifier (name.toList ++ rest) = none := by
          rw [isIdentifier_iff, not_and, not_not] at hid
          simp [identifier, propertyName_append hname hrest, hid hname]
        refine params_eq_none_of_identifier hnone (symbol_eq_none (c := ')') rfl ?_)
        rw [hs, List.cons_append, next?_cons (isSolid_of_isNameStart hc)]
        rintro ⟨⟩
        simp [isNameStart] at hc

lemma params_of_mark {c : Char} (hc : isMark c) (n : Nat) : Grammar.params n (c :: cs) = none := by
  have hnext : next? (c :: cs) = some c := next?_cons (isSolid_of_isOpening (isOpening_of_isMark hc)) cs
  have h1 : symbol "(" (c :: cs) = none := by
    refine symbol_eq_none (c := '(') rfl ?_
    rw [hnext]
    rintro ⟨⟩
    simp [isMark] at hc
  have h2 : identifier (c :: cs) = none := by
    refine identifier_eq_none ?_
    rw [hnext]
    rintro d ⟨⟩
    exact isNameStart_of_isMark hc
  simp [Grammar.params, h1, h2]

lemma arrow_eq_none (h : Leads p r cs) (hr : symbol "=>" r = none) (g : Grammar) (n : Nat) : g.arrow n cs = none := by
  cases h with
  | mark hc => simp [Grammar.arrow, params_of_mark hc]
  | group hparams => simp [Grammar.arrow, hparams]
  | @word name rest hname _ hrest hgoes =>
    obtain ⟨c, ds, hs, hc⟩ := isNameStart_head hname
    have h1 : symbol "(" (name.toList ++ rest) = none := by
      refine symbol_eq_none (c := '(') rfl ?_
      rw [hs, List.cons_append, next?_cons (isSolid_of_isNameStart hc)]
      rintro ⟨⟩
      simp [isNameStart] at hc
    have h2 : symbol "=>" rest = none := by
      rcases hgoes with ⟨-, rfl⟩ | hgoes
      · exact hr
      · exact hgoes.arrow
    cases hid : identifier (name.toList ++ rest) with
    | none => simp [Grammar.arrow, Grammar.params, h1, hid]
    | some result =>
      have hrest' : result.2 = rest := by
        simp only [identifier, propertyName_append hname hrest, Option.bind_eq_bind, Option.bind_some] at hid
        split at hid
        · simp at hid
        · cases hid
          rfl
      simp [Grammar.arrow, Grammar.params, h1, hid, hrest', h2]

lemma keyword_eq_none (h : Leads p r cs) {s : String} (hs : s ∈ statementWords) : keyword s cs = none := by
  cases h with
  | mark hc =>
    refine Lexeme.keyword_eq_none ?_
    rw [next?_cons (isSolid_of_isOpening (isOpening_of_isMark hc))]
    rintro d ⟨⟩
    exact isNameStart_of_isMark hc
  | group => exact Lexeme.keyword_eq_none (by rw [next?_cons rfl]; simp [isNameStart])
  | word name hname hwords hrest => exact keyword_of_ne hname hrest fun heq => hwords (heq ▸ hs)

variable {e : Expr} {tabs : Nat}

lemma params_enclosed (ih : e.place ≠ .whole → ∀ r, Apart r → Leads e.place r (e.text tabs ++ r))
    (hp : e.place ≠ .postfixed) (n : Nat) (r : List Char) :
    Grammar.params n ('(' :: (e.text tabs ++ ')' :: r)) = none := by
  by_cases hwhole : e.place = .whole
  · obtain ⟨params, body, rfl⟩ := Expr.eq_arrow hwhole
    rw [Expr.text_arrow]
    refine params_eq_none_of_identifier (identifier_eq_none ?_) rfl
    rw [List.cons_append, next?_cons rfl]
    simp [isNameStart]
  · exact (ih hwhole _ (apart_cons rfl (by decide) _)).params_eq_none hp n

lemma operand (hp : q ≠ .whole) (ih : e.place ≠ .whole → ∀ r, Apart r → Leads e.place r (e.text tabs ++ r))
    (hr : GoesOn r') (hq : p = .postfixed → q = .postfixed) : Leads p r (e.operandText q tabs ++ r') := by
  rw [Expr.operandText_eq]
  split
  · next hlt =>
    rw [List.cons_append, List.append_assoc]
    refine .group fun n => params_enclosed ih ?_ n r'
    intro hpostfixed
    rw [hpostfixed] at hlt
    cases q <;> simp [Place.level] at hlt
  · next hle =>
    have hwhole : e.place ≠ .whole := by
      intro hwhole
      rw [hwhole] at hle
      cases q <;> simp [Place.level] at hp hle
    refine (ih hwhole r' hr.apart).extend hr fun hpostfixed => ?_
    rw [hq hpostfixed] at hle
    cases hplace : e.place <;> simp [hplace, Place.level] at hle ⊢

end Leads

section First

variable {r : List Char}

lemma Number.Numeral.head {x : Number} {cs : List Char} (h : Numeral x cs) : ∃ c ds, cs = c :: ds ∧ c.isDigit := by
  cases h with
  | whole hne hds =>
    obtain ⟨c, ds, rfl⟩ := List.exists_cons_of_ne_nil hne
    exact ⟨c, ds, rfl, hds c (by simp)⟩
  | fraction hne _ hds =>
    obtain ⟨c, ds, rfl⟩ := List.exists_cons_of_ne_nil hne
    exact ⟨c, _, rfl, hds c (by simp)⟩

lemma literalHere_head {cs rest : List Char} {x : String × String} (h : literalHere cs = some (x, rest)) :
    ∃ c ds, cs = c :: ds ∧ (c = '"' ∨ c = '\'') := by
  cases cs with
  | nil => simp [literalHere] at h
  | cons c cs =>
    refine ⟨c, cs, rfl, ?_⟩
    by_contra hc
    simp [literalHere, hc] at h

lemma leads_quote {c : Char} (hc : c = '"' ∨ c = '\'') (cs : List Char) : Leads .postfixed r (c :: cs) := by
  rcases hc with rfl | rfl
  · exact .mark rfl fun _ => by decide
  · exact .mark rfl fun _ => by decide

lemma Literal.literalHere_string (value : String) (source : Option String)
    (h : (Literal.string value source).WellFormed) :
    literalHere (literal (.string value source)).toList = some ((value, literal (.string value source)), []) := by
  cases source with
  | none => simpa [literal] using literalHere_quote value []
  | some source => exact h

lemma Literal.leads (l : Literal) (h : l.WellFormed) (hr : Apart r) : Leads .postfixed r ((literal l).toList ++ r) := by
  cases l with
  | string value source =>
    obtain ⟨c, ds, hs, hc⟩ := literalHere_head (Literal.literalHere_string value source h)
    rw [hs]
    exact leads_quote hc _
  | number x =>
    cases x with
    | finite u hu =>
      obtain ⟨c, ds, hs, hc⟩ := (Number.numeral_text hu h).head
      rw [literal, hs]
      refine .mark (by simp [isMark, hc]) fun _ => ?_
      rintro rfl
      simp at hc
    | _ => exact h.elim
  | bool b =>
    cases b with
    | false => exact .word "false" rfl (by decide) hr (.inl ⟨rfl, rfl⟩)
    | true => exact .word "true" rfl (by decide) hr (.inl ⟨rfl, rfl⟩)
  | null => exact .word "null" rfl (by decide) hr (.inl ⟨rfl, rfl⟩)
  | undefined => exact .word "undefined" rfl (by decide) hr (.inl ⟨rfl, rfl⟩)

lemma goesOn_operator (op : BinaryOp) (cs : List Char) : GoesOn (' ' :: (op.symbol.toList ++ cs)) := by
  refine ⟨apart_cons rfl (by decide) _, ?_, ?_, ?_⟩ <;> cases op <;> rfl

lemma Expr.leads (tabs : Nat) : (e : Expr) → e.WellFormed → e.place ≠ .whole → (r : List Char) → Apart r →
    Leads e.place r (e.text tabs ++ r)
  | .identifier name, h, _, r, hr => by
    obtain ⟨hname, hwords⟩ := isIdentifier_iff.1 h
    exact .word name hname (notMem_statementWords hwords) hr (.inl ⟨rfl, rfl⟩)
  | .literal l, h, _, r, hr => l.leads h hr
  | .array parts, _, _, r, _ => by
    rw [text, expression, String.toList_append, String.toList_append]
    exact .mark (c := '[') rfl fun _ => by decide
  | .object [], _, _, r, _ => by
    rw [text, expression]
    exact .mark (c := '{') rfl fun _ => by decide
  | .object (part :: parts), _, _, r, _ => by
    simp only [text, expression, String.toList_append]
    exact .mark (c := '{') rfl fun _ => by decide
  | .member base name, h, _, r, hr => by
    simp only [Expr.WellFormed] at h
    rw [text_member, List.append_assoc]
    exact Leads.operand (by decide) (leads tabs base h.1) ⟨apart_dot h.2 r, rfl, rfl, rfl⟩ fun _ => rfl
  | .index base i, h, _, r, hr => by
    simp only [Expr.WellFormed] at h
    rw [text_index, List.append_assoc]
    exact Leads.operand (by decide) (leads tabs base h.1) ⟨apart_cons rfl (by decide) _, rfl, rfl, rfl⟩ fun _ => rfl
  | .call callee arguments, h, _, r, hr => by
    simp only [Expr.WellFormed] at h
    rw [text_call, List.append_assoc]
    exact Leads.operand (by decide) (leads tabs callee h.1) ⟨apart_cons rfl (by decide) _, rfl, rfl, rfl⟩ fun _ => rfl
  | .not operand, h, _, r, hr => by
    rw [text_not]
    exact .mark (c := '!') rfl (by simp [place])
  | .binary op left right, h, _, r, hr => by
    simp only [Expr.WellFormed] at h
    rw [text_binary, List.append_assoc, List.cons_append, List.append_assoc]
    refine Leads.operand ?_ (leads tabs left h.1) (goesOn_operator op _) id
    cases op <;> decide
  | .conditional test consequent alternate, h, _, r, hr => by
    simp only [Expr.WellFormed] at h
    rw [text_conditional, List.append_assoc]
    exact Leads.operand (by decide) (leads tabs test h.1) ⟨apart_cons rfl (by decide) _, rfl, rfl, rfl⟩
      (by simp [place])
  | .arrow params body, _, hplace, _, _ => absurd rfl hplace
  | .markup (.element ..), _, _, r, _ => by
    simp only [text, expression, Printer.markup]
    split
    · simp only [String.toList_append]
      exact .mark (c := '<') rfl fun _ => by decide
    · simp only [String.toList_append]
      exact .mark (c := '<') rfl fun _ => by decide
  | .markup (.fragment children), _, _, r, _ => by
    simp only [text, expression, Printer.markup, String.toList_append]
    exact .mark (c := '<') rfl fun _ => by decide
  | .markup (.text _), h, _, _, _ => by simp [Expr.WellFormed, Markup.isTree] at h
  | .markup (.container _), h, _, _, _ => by simp [Expr.WellFormed, Markup.isTree] at h

end First

section Places

variable {e v : Expr} {n tabs : Nat} {r t : List Char}

lemma Leads.symbol_sign {cs : List Char} (h : Leads .postfixed r cs) : symbol "!" cs = none := by
  cases h with
  | mark hc hsign =>
    refine symbol_eq_none (c := '!') rfl ?_
    rw [next?_cons (isSolid_of_isOpening (isOpening_of_isMark hc))]
    exact fun heq => hsign rfl (Option.some.inj heq)
  | group => rfl
  | @word name rest hname =>
    obtain ⟨c, ds, hs, hc⟩ := isNameStart_head hname
    refine symbol_eq_none (c := '!') rfl ?_
    rw [hs, List.cons_append, next?_cons (isSolid_of_isNameStart hc)]
    rintro ⟨⟩
    simp [isNameStart] at hc

lemma Expr.begins (h : e.WellFormed) (tabs : Nat) : Begins (e.text tabs) e.place where
  sign hp r hr := by
    have hleads := e.leads tabs h (by simp [hp]) r hr
    rw [hp] at hleads
    exact hleads.symbol_sign
  arrow hp g n r hr := (e.leads tabs h hp r hr.apart).arrow_eq_none (hr.symbol_eq_none rfl rfl) g n

lemma begins_parenthesized (h : ∀ n r, Grammar.params n ('(' :: (t ++ ')' :: r)) = none) :
    Begins ('(' :: (t ++ [')'])) .postfixed where
  sign _ _ _ := rfl
  arrow _ g n r _ := by
    rw [List.cons_append, List.append_assoc]
    simp [Grammar.arrow, h]

lemma Expr.reads_operand (hwf : e.WellFormed) (h : ∀ n, (e.text tabs).length ≤ n → Reads n (e.text tabs) v e.place)
    (q : Place) (hlen : (e.operandText q tabs).length ≤ n) : Reads n (e.operandText q tabs) v q := by
  rw [operandText_eq] at hlen ⊢
  have hbegins := Expr.begins hwf tabs
  split at hlen
  · next hlt =>
    rw [if_pos hlt]
    have hwhole (n : Nat) (hn : (e.text tabs).length ≤ n) : Reads n (e.text tabs) v .whole :=
      (h n hn).lower hbegins hn (by cases e.place <;> decide)
    have hplace : e.place ≠ .postfixed := by
      intro hplace
      rw [hplace] at hlt
      cases q <;> simp [Place.level] at hlt
    have hparams := Leads.params_enclosed (e.leads tabs hwf) hplace
    have hbound : (e.text tabs).length + 2 ≤ n := by
      rw [List.length_cons, List.length_append, List.length_singleton] at hlen
      omega
    refine (reads_parenthesized hbound hwhole).lower (begins_parenthesized hparams) hlen ?_
    cases q <;> decide
  · next hle =>
    rw [if_neg hle]
    exact (h n hlen).lower hbegins hlen (Nat.le_of_not_lt hle)

end Places

namespace Parser.Grammar

variable {g : Grammar} {n m : Nat}

section Blind

lemma blind_params (n : Nat) : Blind (params n) := by
  intro c cs hc
  simp only [params, blind_symbol _ c cs hc, blind_identifier c cs hc]

lemma blind_arrow (g : Grammar) (n : Nat) : Blind (g.arrow n) := by
  intro c cs hc
  simp only [arrow, blind_params n c cs hc]

lemma blind_primary (g : Grammar) (n : Nat) : Blind (g.primary n) := by
  intro c cs hc
  have hskip : skip (c :: cs) = skip cs := blind_skip id c cs hc
  simp only [primary, items, object, parenthesized, word, number, hskip, blind_stringLiteral c cs hc,
    blind_symbol _ c cs hc, blind_propertyName c cs hc]

lemma blind_signed (g : Grammar) (n m : Nat) : Blind (g.signed n m) := by
  intro c cs hc
  have hpostfixed : g.postfixed n (c :: cs) = g.postfixed n cs := by simp only [postfixed, blind_primary g n c cs hc]
  cases m with
  | zero => simp [signed, Reader.many, hpostfixed]
  | succ m =>
    simp only [signed, Reader.many, sign, blind_symbol _ c cs hc]
    cases symbol "!" cs <;> simp [hpostfixed]

lemma blind_chain {operand : Reader (Checked Expr)} (h : Blind operand) (n : Nat) (ops : List BinaryOp) :
    Blind (chain n ops operand) := by
  intro c cs hc
  simp only [chain, h c cs hc]

lemma blind_conditional (g : Grammar) (n : Nat) : Blind (g.conditional n) := by
  have hbinary : Blind (g.binary n) :=
    blind_chain (blind_chain (blind_chain (blind_chain (blind_signed g n n) _ _) _ _) _ _) _ _
  intro c cs hc
  simp only [conditional, hbinary c cs hc]

lemma blind_expression (n : Nat) : Blind (grammar n).expression := by
  cases n with
  | zero => exact fun _ _ _ => rfl
  | succ n =>
    intro c cs hc
    simp only [grammar, expressionOf, blind_arrow _ _ c cs hc, blind_conditional _ _ c cs hc]

end Blind

lemma expression_eq_none {cs : List Char} (h : ∀ c ∈ next? cs, isOpening c = false) :
    (grammar n).expression cs = none := by
  have hsymbol {s : String} {c : Char} {p : List Char} (hs : s.toList = c :: p) (hc : isOpening c) :
      symbol s cs = none := by
    refine symbol_eq_none hs fun hnext => ?_
    rw [h c hnext] at hc
    simp at hc
  have hname : ∀ c ∈ next? cs, isNameStart c = false := by
    intro c hc
    have := h c hc
    simp only [isOpening, Bool.or_eq_false_iff] at this
    exact this.1.1
  have h1 : symbol "(" cs = none := hsymbol rfl rfl
  have h2 : symbol "[" cs = none := hsymbol rfl rfl
  have h3 : symbol "\x7b" cs = none := hsymbol rfl rfl
  have h4 : symbol "!" cs = none := hsymbol rfl rfl
  have h5 : stringLiteral cs = none := by
    refine stringLiteral_eq_none fun c hc => ?_
    have := h c hc
    constructor <;> rintro rfl <;> simp [isOpening] at this
  have h6 : number cs = none := by
    refine number_eq_none fun c hc => ?_
    have := h c hc
    simp only [isOpening, Bool.or_eq_false_iff] at this
    exact this.1.2
  have h7 (g : Grammar) (n : Nat) : g.markup n (skip cs) = none := by
    refine markup_eq_none (fun hhead => ?_) g n
    have := h '<' hhead
    simp [isOpening] at this
  cases n with
  | zero => rfl
  | succ n =>
    have hprimary : (grammar n).primary (n + 1) cs = none := by
      simp [primary, items, object, parenthesized, word, h1, h2, h3, h5, h6, h7, propertyName_eq_none hname]
    have hunary : (grammar n).unary (n + 1) cs = none := by
      simp [unary, Reader.many, h4, postfixed, hprimary]
    simp [grammar, expressionOf, arrow, params, h1, identifier_eq_none hname, conditional, binary, chain, hunary]

end Parser.Grammar

end TemplateScript
