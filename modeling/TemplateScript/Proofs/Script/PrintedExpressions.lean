import TemplateScript.Proofs.Script.Openings

namespace TemplateScript

open Lexeme Printer TemplateScript.Parser TemplateScript.Parser.Grammar

/-- An expression that can be written down and is read back, however deep it is indented. -/
structure Expr.Readable (e : Expr) : Prop where
  wellFormed : e.WellFormed
  reads : ∀ n tabs, (e.text tabs).length ≤ n → Reads n (e.text tabs) e.reread e.place

section Opening

variable {e : Expr} {tabs : Nat} {r : List Char}

lemma Expr.text_opening (h : e.WellFormed) (tabs : Nat) : ∃ c cs, e.text tabs = c :: cs ∧ isOpening c := by
  by_cases hplace : e.place = .whole
  · obtain ⟨params, body, rfl⟩ := Expr.eq_arrow hplace
    exact ⟨_, _, text_arrow .., rfl⟩
  · simpa using (e.leads tabs h hplace [] trivial).isOpening

lemma Expr.next?_text (h : e.WellFormed) (tabs : Nat) (r : List Char) :
    ∃ c, next? (e.text tabs ++ r) = some c ∧ isOpening c := by
  obtain ⟨c, cs, hs, hc⟩ := Expr.text_opening h tabs
  rw [hs]
  exact ⟨c, next?_cons (isSolid_of_isOpening hc) _, hc⟩

lemma Expr.symbol_text (h : e.WellFormed) (tabs : Nat) (r : List Char) {s : String} {c : Char} {p : List Char}
    (hs : s.toList = c :: p) (hc : isOpening c = false) : symbol s (e.text tabs ++ r) = none := by
  obtain ⟨d, hd, hopening⟩ := Expr.next?_text h tabs r
  refine symbol_eq_none hs fun hnext => ?_
  rw [hd] at hnext
  cases hnext
  simp [hc] at hopening

end Opening

namespace Expr.Readable

variable {e : Expr} {n : Nat} {r : List Char}

lemma operand (h : e.Readable) (tabs : Nat) (p : Place) (hlen : (e.operandText p tabs).length ≤ n) :
    Reads n (e.operandText p tabs) e.reread p :=
  Expr.reads_operand h.wellFormed (fun n => h.reads n tabs) p hlen

lemma whole (h : e.Readable) (tabs : Nat) (hlen : (e.text tabs).length ≤ n) : Reads n (e.text tabs) e.reread .whole :=
  (h.reads n tabs hlen).lower (Expr.begins h.wellFormed tabs) hlen (by cases e.place <;> decide)

lemma expression (h : e.Readable) (tabs : Nat) (hlen : (e.text tabs).length < n) (hr : Free 2 r) :
    (grammar n).expression (e.text tabs ++ r) = some (.ok e.reread, r) := by
  obtain ⟨n, rfl⟩ : ∃ k, n = k + 1 := ⟨n - 1, by omega⟩
  exact (h.whole tabs (by omega)).stop (by omega) hr

end Expr.Readable

section Primary

variable {g : Grammar} {n tabs : Nat} {r cs : List Char} {e : Expr}

lemma reads_primary {t : List Char} (h : ∀ r, Apart r → (grammar n).primary (n + 1) (t ++ r) = some (.ok e, r)) :
    Reads n t e .postfixed := by
  intro r hr
  exact ⟨n + 1, by omega, postfixed_of_primary (h r hr)⟩

lemma markup_skip_eq_none (h : next? cs ≠ some '<') (g : Grammar) (n : Nat) : g.markup n (skip cs) = none :=
  markup_eq_none h g n

lemma primary_string {x : String × String} (h : literalHere cs = some (x, [])) (r : List Char) :
    g.primary n (cs ++ r) = some (.ok (.literal (.string x.1 (some x.2))), r) := by
  have h1 : g.markup n (skip (cs ++ r)) = none := by
    obtain ⟨c, ds, rfl, hc⟩ := literalHere_head h
    refine markup_skip_eq_none ?_ g n
    rw [List.cons_append, next?_cons (isSolid_of_quote hc)]
    rcases hc with rfl | rfl <;> simp
  simp [primary, h1, stringLiteral_append h]

lemma primary_number {x : Number} (h : Number.Numeral x cs) (hr : Apart r) :
    g.primary n (cs ++ r) = some (.ok (.literal (.number x)), r) := by
  obtain ⟨c, ds, hs, hc⟩ := h.head
  have hnext : next? (cs ++ r) = some c := by
    rw [hs]
    exact next?_cons (isSolid_of_isDigit hc) _
  have h1 : g.markup n (skip (cs ++ r)) = none := by
    refine markup_skip_eq_none ?_ g n
    rw [hnext]
    rintro ⟨⟩
    simp at hc
  have h2 : stringLiteral (cs ++ r) = none := by
    refine stringLiteral_eq_none ?_
    rw [hnext]
    rintro d ⟨⟩
    constructor <;> rintro rfl <;> simp at hc
  simp [primary, h1, h2, number_append h hr]

lemma primary_word (name : String) (hname : isName name) (r : List Char) :
    g.primary n (name.toList ++ r) = Grammar.word (name.toList ++ r) := by
  obtain ⟨c, ds, hs, hc⟩ := isNameStart_head hname
  have hnext : next? (name.toList ++ r) = some c := by
    rw [hs]
    exact next?_cons (isSolid_of_isNameStart hc) _
  have hne {d : Char} (hd : isNameStart d = false) : next? (name.toList ++ r) ≠ some d := by
    rw [hnext]
    rintro ⟨⟩
    simp [hd] at hc
  have h1 : g.markup n (skip (name.toList ++ r)) = none := markup_skip_eq_none (hne rfl) g n
  have h2 : stringLiteral (name.toList ++ r) = none := by
    refine stringLiteral_eq_none fun d hd => ?_
    constructor <;> rintro rfl <;> exact hne rfl hd
  have h3 : number (name.toList ++ r) = none := by
    refine number_eq_none ?_
    rw [hnext]
    rintro d ⟨⟩
    exact isDigit_of_isNameStart hc
  have h4 : symbol "[" (name.toList ++ r) = none := symbol_eq_none (c := '[') rfl (hne rfl)
  have h5 : symbol "\x7b" (name.toList ++ r) = none := symbol_eq_none (c := '{') rfl (hne rfl)
  have h6 : symbol "(" (name.toList ++ r) = none := symbol_eq_none (c := '(') rfl (hne rfl)
  simp [primary, Grammar.items, object, parenthesized, h1, h2, h3, h4, h5, h6]

lemma primary_array {parts : Checked (List Item)} (h : g.items n "[" "]" ('[' :: cs) = some (parts, r)) :
    g.primary n ('[' :: cs) = some (parts.map .array, r) := by
  have hnext : next? ('[' :: cs) = some '[' := next?_cons rfl cs
  have h1 : g.markup n (skip ('[' :: cs)) = none := markup_skip_eq_none (by simp [hnext]) g n
  have h2 : stringLiteral ('[' :: cs) = none := stringLiteral_eq_none (by simp [hnext])
  have h3 : number ('[' :: cs) = none := number_eq_none (by simp [hnext])
  simp [primary, h1, h2, h3, h]

lemma primary_object {e : Checked Expr} (h : g.object n ('{' :: cs) = some (e, r)) :
    g.primary n ('{' :: cs) = some (e, r) := by
  have hnext : next? ('{' :: cs) = some '{' := next?_cons rfl cs
  have h1 : g.markup n (skip ('{' :: cs)) = none := markup_skip_eq_none (by simp [hnext]) g n
  have h2 : stringLiteral ('{' :: cs) = none := stringLiteral_eq_none (by simp [hnext])
  have h3 : number ('{' :: cs) = none := number_eq_none (by simp [hnext])
  have h4 : symbol "[" ('{' :: cs) = none := rfl
  simp [primary, Grammar.items, h1, h2, h3, h4, h]

lemma primary_markup {node : Markup} (h : g.markup n ('<' :: cs) = some (.ok node, r)) :
    g.primary n ('<' :: cs) = some (.ok (.markup node), r) := by
  rw [primary, skip_cons rfl, h]
  rfl

end Primary

section Simple

lemma Expr.readable_identifier {name : String} (h : isIdentifier name) : (Expr.identifier name).Readable where
  wellFormed := h
  reads n tabs _ := by
    obtain ⟨hname, hreserved⟩ := isIdentifier_iff.1 h
    refine reads_primary fun r hr => ?_
    refine (primary_word name hname r).trans ?_
    have hne (s : String) (hs : s ∈ reserved) : name ≠ s := by
      rintro rfl
      exact hreserved hs
    simp [Grammar.word, propertyName_append hname hr, hreserved, hne "true" (by decide), hne "false" (by decide),
      hne "null" (by decide), hne "undefined" (by decide), Expr.reread]

lemma Expr.readable_literal {l : Literal} (h : l.WellFormed) : (Expr.literal l).Readable where
  wellFormed := h
  reads n tabs _ := by
    refine reads_primary fun r hr => ?_
    cases l with
    | string value source => exact primary_string (Literal.literalHere_string value source h) r
    | number x =>
      cases x with
      | finite u hu => exact primary_number (Number.numeral_text hu h) hr
      | _ => exact h.elim
    | bool b =>
      cases b with
      | false =>
        refine (primary_word "false" rfl r).trans ?_
        simp only [Grammar.word, propertyName_append (s := "false") rfl hr]
        rfl
      | true =>
        refine (primary_word "true" rfl r).trans ?_
        simp only [Grammar.word, propertyName_append (s := "true") rfl hr]
        rfl
    | null =>
      refine (primary_word "null" rfl r).trans ?_
      simp only [Grammar.word, propertyName_append (s := "null") rfl hr]
      rfl
    | undefined =>
      refine (primary_word "undefined" rfl r).trans ?_
      simp only [Grammar.word, propertyName_append (s := "undefined") rfl hr]
      rfl

end Simple

section Lists

variable {n tabs : Nat} {r : List Char}

lemma sequence_map_ok {α : Type} (vs : List α) : Parser.sequence (vs.map .ok) = .ok vs := by
  induction vs with
  | nil => rfl
  | cons v vs ih =>
    rw [List.map_cons, Parser.sequence, ih]
    rfl

def Item.Readable (parts : List Item) : Prop := ∀ n tabs, List.Forall₂
  (fun t v => t.toList.length < n → ∀ r, Free 2 r → (grammar n).item (t.toList ++ r) = some (.ok v, r))
  (Printer.items tabs parts) (Item.rereadAll parts)

lemma Item.readable_nil : Item.Readable [] := fun _ _ => .nil

lemma Item.readable_single {value : Expr} {parts : List Item} (hvalue : value.Readable) (hparts : Item.Readable parts) :
    Item.Readable (.single value :: parts) := by
  intro n tabs
  refine .cons (fun hlen r hr => ?_) (hparts n tabs)
  rw [Expr.expression_arrowLevel] at hlen ⊢
  have h1 : symbol "..." (value.text tabs ++ r) = none := Expr.symbol_text hvalue.wellFormed tabs r rfl rfl
  have h2 := hvalue.expression tabs hlen hr
  simp only [item]
  rw [← Expr.text, h1, h2]
  rfl

lemma Item.readable_spread {source : Expr} {parts : List Item} (hsource : source.Readable)
    (hparts : Item.Readable parts) : Item.Readable (.spread source :: parts) := by
  intro n tabs
  refine .cons (fun hlen r hr => ?_) (hparts n tabs)
  rw [Expr.expression_arrowLevel, String.toList_append, List.length_append] at hlen
  rw [Expr.expression_arrowLevel, String.toList_append, List.append_assoc]
  have h1 : symbol "..." ("...".toList ++ (source.text tabs ++ r)) = some (source.text tabs ++ r) := rfl
  have h2 := hsource.expression tabs (n := n) (by rw [Expr.text]; omega) hr
  simp only [item]
  rw [← Expr.text, h1]
  simp only [h2]
  rfl

lemma blind_item (n : Nat) : Blind (grammar n).item := by
  intro c cs hc
  simp only [item, blind_symbol _ c cs hc, blind_expression n c cs hc]

lemma items_read {parts : List Item} (h : Item.Readable parts) {opening closing : String} {o c : Char}
    (ho : opening.toList = [o]) (hc : closing.toList = [c]) (hosolid : isSolid o) (hcsolid : isSolid c)
    (hcname : isNameChar c = false) (hcomma : c ≠ ',') (hclose : isOpening c = false) (hfree : continues 2 c = false)
    (hlen : (joinWith ", " (Printer.items tabs parts)).toList.length < n) :
    (grammar n).items (n + 1) opening closing (o :: ((joinWith ", " (Printer.items tabs parts)).toList ++ c :: r)) =
      some (.ok (Item.rereadAll parts), r) := by
  have h1 (cs : List Char) : symbol opening (o :: cs) = some cs := by
    rw [symbol, ho, skip_cons hosolid, strip?, if_pos rfl, strip?]
  have h2 (cs : List Char) : symbol closing (c :: cs) = some cs := by
    rw [symbol, hc, skip_cons hcsolid, strip?, if_pos rfl, strip?]
  have hnext : next? (c :: r) = some c := next?_cons hcsolid r
  have hnone : (grammar n).item (c :: r) = none := by
    have h3 : symbol "..." (c :: r) = none := by
      refine symbol_eq_none (c := '.') rfl ?_
      rw [hnext]
      rintro ⟨⟩
      simp [continues] at hfree
    have h4 : (grammar n).expression (c :: r) = none := by
      refine expression_eq_none ?_
      rw [hnext]
      rintro d ⟨⟩
      exact hclose
    simp [item, h3, h4]
  have hcommas : symbol "," (c :: r) = none := by
    refine symbol_eq_none (c := ',') rfl ?_
    rw [hnext]
    exact fun heq => hcomma (Option.some.inj heq)
  have hlist := Reader.commaSeparated_join (P := Free 2) (blind_item n) (fun cs => free_cons rfl rfl rfl cs)
    (free_cons hcsolid hcname hfree r) hcommas hnone (List.forall₂_map_right_iff.2 (h n tabs)) hlen (n := n + 1)
      (by omega)
  simp [Grammar.items, h1, hlist, h2, sequence_map_ok]

lemma Expr.readable_array {parts : List Item} (hwf : Item.AllWellFormed parts) (h : Item.Readable parts) :
    (Expr.array parts).Readable where
  wellFormed := by simpa only [Expr.WellFormed]
  reads n tabs hlen := by
    have htext : (Expr.array parts).text tabs =
        '[' :: ((joinWith ", " (Printer.items tabs parts)).toList ++ [']']) := by
      simp [Expr.text, Printer.expression]
    rw [htext] at hlen ⊢
    refine reads_primary fun r _ => ?_
    simp only [List.length_cons, List.length_append] at hlen
    rw [List.cons_append, List.append_assoc]
    exact primary_array (items_read h rfl rfl rfl rfl rfl (by decide) rfl rfl (by omega))

def Property.Readable (parts : List Property) : Prop := ∀ n tabs, List.Forall₂
  (fun t v => t.toList.length < n → ∀ r, Free 2 r → (grammar n).property (t.toList ++ r) = some (.ok v, r))
  (Printer.properties tabs parts) (Property.rereadAll parts)

lemma Property.readable_nil : Property.Readable [] := fun _ _ => .nil

lemma Property.readable_spread {source : Expr} {parts : List Property} (hsource : source.Readable)
    (hparts : Property.Readable parts) : Property.Readable (.spread source :: parts) := by
  intro n tabs
  refine .cons (fun hlen r hr => ?_) (hparts n tabs)
  rw [Expr.expression_arrowLevel, String.toList_append, List.length_append] at hlen
  rw [Expr.expression_arrowLevel, String.toList_append, List.append_assoc]
  have h1 : symbol "..." ("...".toList ++ (source.text tabs ++ r)) = some (source.text tabs ++ r) := rfl
  have h2 := hsource.expression tabs (n := n) (by rw [Expr.text]; omega) hr
  simp only [property]
  rw [← Expr.text, h1]
  simp only [h2]
  rfl

lemma property_key {g : Grammar} (name : String) {cs : List Char} {value : Expr}
    (h : g.expression cs = some (.ok value, r)) :
    g.property ((key name).toList ++ ':' :: cs) = some (.ok (.keyed name value), r) := by
  have hcolon : symbol ":" (':' :: cs) = some cs := rfl
  rw [key]
  split
  · next hname =>
    obtain ⟨c, ds, hs, hc⟩ := isNameStart_head hname
    have hnext : next? (name.toList ++ ':' :: cs) = some c := by
      rw [hs]
      exact next?_cons (isSolid_of_isNameStart hc) _
    have hne {d : Char} (hd : isNameStart d = false) : next? (name.toList ++ ':' :: cs) ≠ some d := by
      rw [hnext]
      rintro ⟨⟩
      simp [hd] at hc
    have h1 : stringLiteral (name.toList ++ ':' :: cs) = none := by
      refine stringLiteral_eq_none fun d hd => ?_
      constructor <;> rintro rfl <;> exact hne rfl hd
    have h2 : symbol "..." (name.toList ++ ':' :: cs) = none := symbol_eq_none (c := '.') rfl (hne rfl)
    have h3 := propertyName_append hname (apart_cons (c := ':') rfl (by decide) cs)
    simp [property, keyedProperty, h1, h2, h3, hcolon, h, Except.map]
  · have h1 := stringLiteral_append (Literal.literalHere_string name none trivial) (':' :: cs)
    have h2 : symbol "..." ((literal (.string name none)).toList ++ ':' :: cs) = none := by
      rw [literal, Text.quote, String.toList_ofList]
      rfl
    rw [show Text.quote name = literal (.string name none) from rfl]
    simp [property, keyedProperty, h1, h2, hcolon, h, Except.map]

lemma Property.readable_keyed {name : String} {value : Expr} {parts : List Property} (hvalue : value.Readable)
    (hparts : Property.Readable parts) : Property.Readable (.keyed name value :: parts) := by
  intro n tabs
  refine .cons (fun hlen r hr => ?_) (hparts n tabs)
  have htext : (key name ++ ": " ++ Printer.expression arrowLevel tabs value).toList =
      (key name).toList ++ ':' :: ' ' :: value.text tabs := by
    simp [Expr.expression_arrowLevel, Expr.text]
  rw [htext, List.length_append, List.length_cons, List.length_cons] at hlen
  rw [htext, List.append_assoc, List.cons_append, List.cons_append]
  refine property_key name ?_
  rw [(blind_expression n).space]
  exact hvalue.expression tabs (by omega) hr

lemma blind_property (n : Nat) : Blind (grammar n).property := by
  intro c cs hc
  simp only [property, keyedProperty, blind_symbol _ c cs hc, blind_stringLiteral c cs hc, blind_propertyName c cs hc,
    blind_identifier c cs hc]

lemma property_close (n : Nat) (r : List Char) : (grammar n).property ('}' :: r) = none := by
  have hnext : next? ('}' :: r) = some '}' := next?_cons rfl r
  have hname : ∀ c ∈ next? ('}' :: r), isNameStart c = false := by
    rw [hnext]
    rintro c ⟨⟩
    rfl
  have h1 : symbol "..." ('}' :: r) = none := rfl
  have h2 : stringLiteral ('}' :: r) = none := stringLiteral_eq_none (by simp [hnext])
  simp [property, keyedProperty, h1, h2, propertyName_eq_none hname, identifier_eq_none hname]

lemma Expr.readable_object {parts : List Property} (hwf : Property.AllWellFormed parts) (h : Property.Readable parts) :
    (Expr.object parts).Readable where
  wellFormed := by simpa only [Expr.WellFormed]
  reads n tabs hlen := by
    refine reads_primary fun r _ => ?_
    have h1 (cs : List Char) : symbol "\x7b" ('{' :: cs) = some cs := rfl
    have h2 (cs : List Char) : symbol "\x7d" ('}' :: cs) = some cs := rfl
    cases parts with
    | nil =>
      rw [Expr.text, Printer.expression]
      change (grammar n).primary (n + 1) ('{' :: '}' :: r) = _
      refine primary_object ?_
      simp only [Grammar.object, h1, Reader.commaSeparated, property_close, Option.bind_eq_bind, Option.bind_some, h2]
      rfl
    | cons part parts =>
      have htext : (Expr.object (part :: parts)).text tabs =
          '{' :: ' ' :: ((joinWith ", " (Printer.properties tabs (part :: parts))).toList ++ [' ', '}']) := by
        simp [Expr.text, Printer.expression]
      rw [htext] at hlen ⊢
      simp only [List.length_cons, List.length_append] at hlen
      simp only [List.cons_append, List.append_assoc, List.nil_append]
      have hclose : (grammar n).property (' ' :: '}' :: r) = none :=
        (blind_property n).space _ |>.trans (property_close n r)
      have hlist := Reader.commaSeparated_join (P := Free 2) (blind_property n) (fun cs => free_cons rfl rfl rfl cs)
        (free_space rfl rfl r) rfl hclose (List.forall₂_map_right_iff.2 (h n tabs)) (by omega) (n := n + 1) (by omega)
      obtain ⟨v, vs, hvs⟩ : ∃ v vs, Property.rereadAll (part :: parts) = v :: vs := by
        cases part <;> exact ⟨_, _, rfl⟩
      have hspace := Reader.commaSeparated_space (blind_property n) (by rwa [hvs, List.map_cons] at hlist)
      refine primary_object ?_
      rw [Expr.reread, hvs]
      simp only [Grammar.object, h1, hspace, Option.bind_eq_bind, Option.bind_some, (blind_symbol _).space, h2]
      rw [← List.map_cons, sequence_map_ok]
      rfl

end Lists

section Suffixes

variable {e : Expr} {n tabs : Nat} {s : List Char}

lemma reads_suffix (suffix : Suffix) (h : e.Readable) {v : Expr}
    (hlen : (e.operandText .postfixed tabs ++ s).length ≤ n) (hs : s ≠ []) (hapart : ∀ r, Apart r → Apart (s ++ r))
    (hread : ∀ r, Apart r → (grammar n).suffix (n + 1) (s ++ r) = some (suffix, r))
    (hv : suffix.apply e.reread = .ok v) : Reads n (e.operandText .postfixed tabs ++ s) v .postfixed := by
  intro r hr
  have hpos := List.length_pos_of_ne_nil hs
  rw [List.length_append] at hlen ⊢
  obtain ⟨m, hm, hoperand⟩ := h.operand tabs .postfixed (n := n) (by omega) (s ++ r) (hapart r hr)
  obtain ⟨m, rfl⟩ : ∃ k, m = k + 1 := ⟨m - 1, by omega⟩
  refine ⟨m, by omega, ?_⟩
  rw [List.append_assoc, hoperand, extend_step (hread r hr) hv]

lemma Expr.readable_member (h : e.Readable) {name : String} (hname : isName name) : (Expr.member e name).Readable where
  wellFormed := ⟨h.wellFormed, hname⟩
  reads n tabs hlen := by
    rw [Expr.text_member] at hlen ⊢
    refine reads_suffix (.member name) h hlen (by simp) (fun r _ => apart_dot hname r) (fun r hr => ?_) rfl
    have h1 : symbol "(" ('.' :: (name.toList ++ r)) = none := rfl
    have h2 : symbol "." ('.' :: (name.toList ++ r)) = some (name.toList ++ r) := rfl
    simp [suffix, Grammar.items, h1, h2, propertyName_append hname hr]

lemma Expr.readable_index (h : e.Readable) {i : Expr} (hi : i.Readable) : (Expr.index e i).Readable where
  wellFormed := ⟨h.wellFormed, hi.wellFormed⟩
  reads n tabs hlen := by
    rw [Expr.text_index] at hlen ⊢
    refine reads_suffix (.index (.ok i.reread)) h hlen (by simp) (fun r _ => apart_cons rfl (by decide) _)
      (fun r hr => ?_) rfl
    have h1 (cs : List Char) : symbol "(" ('[' :: cs) = none := rfl
    have h2 (cs : List Char) : symbol "." ('[' :: cs) = none := rfl
    have h3 (cs : List Char) : symbol "[" ('[' :: cs) = some cs := rfl
    have h4 : symbol "]" (']' :: r) = some r := rfl
    simp only [List.length_append, List.length_cons] at hlen
    have hindex := hi.expression tabs (n := n) (r := ']' :: r) (by omega) (free_cons rfl rfl rfl r)
    simp [suffix, Grammar.items, h1, h2, h3, h4, hindex]

lemma Expr.readable_call (h : e.Readable) {arguments : List Item} (hwf : Item.AllWellFormed arguments)
    (harguments : Item.Readable arguments) : (Expr.call e arguments).Readable where
  wellFormed := ⟨h.wellFormed, hwf⟩
  reads n tabs hlen := by
    rw [Expr.text_call] at hlen ⊢
    refine reads_suffix (.call (.ok (Item.rereadAll arguments))) h hlen (by simp)
      (fun r _ => apart_cons rfl (by decide) _) (fun r hr => ?_) rfl
    simp only [List.length_append, List.length_cons] at hlen
    have hitems : (grammar n).items (n + 1) "(" ")" ('(' :: ((joinWith ", " (Printer.items tabs arguments)).toList ++
        ')' :: r)) = some (.ok (Item.rereadAll arguments), r) :=
      items_read harguments rfl rfl rfl rfl rfl (by decide) rfl rfl (by omega)
    simp [suffix, hitems]

end Suffixes

section Operators

variable {e left right : Expr} {n tabs : Nat}

lemma Expr.readable_not (h : e.Readable) : (Expr.not e).Readable where
  wellFormed := h.wellFormed
  reads n tabs hlen := by
    rw [Expr.text_not] at hlen ⊢
    rw [List.length_cons] at hlen
    intro m r hm hr
    rw [List.length_cons] at hm
    obtain ⟨m, rfl⟩ : ∃ k, m = k + 1 := ⟨m - 1, by omega⟩
    exact signed_sign (h.operand tabs .unary (by omega) m r (by omega) hr)

lemma blind_reader (g : Grammar) (n : Nat) (p : Place) : Blind (p.reader g n) := by
  have hunary := blind_signed g n n
  cases p with
  | whole =>
    intro c cs hc
    simp only [Place.reader, expressionOf, blind_arrow _ _ c cs hc, blind_conditional _ _ c cs hc]
  | conditional => exact blind_conditional g n
  | or => exact blind_chain (blind_chain (blind_chain (blind_chain hunary _ _) _ _) _ _) _ _
  | and => exact blind_chain (blind_chain (blind_chain hunary _ _) _ _) _ _
  | equality => exact blind_chain (blind_chain hunary _ _) _ _
  | add => exact blind_chain hunary _ _
  | unary => exact hunary
  | postfixed =>
    intro c cs hc
    simp only [Place.reader, postfixed, blind_primary g n c cs hc]

lemma operator_read (op : BinaryOp) (cs : List Char) :
    operator op.place.ops (' ' :: (op.symbol.toList ++ ' ' :: cs)) = some (op, ' ' :: cs) := by
  cases op <;> rfl

lemma free_operator (op : BinaryOp) (cs : List Char) :
    Free op.place.above.level (' ' :: (op.symbol.toList ++ ' ' :: cs)) := by
  cases op <;> exact free_space rfl rfl _

lemma Expr.readable_binary (op : BinaryOp) (hleft : left.Readable) (hright : right.Readable) :
    (Expr.binary op left right).Readable where
  wellFormed := ⟨hleft.wellFormed, hright.wellFormed⟩
  reads n tabs hlen := by
    have hops : op.place.ops ≠ [] := List.ne_nil_of_mem op.mem_ops_place
    rw [Expr.text_binary] at hlen ⊢
    simp only [List.length_append, List.length_cons] at hlen
    have hl := hleft.operand tabs op.place (n := n) (by omega)
    have hr := hright.operand tabs op.place.above (n := n) (by omega)
    rw [Expr.place, reads_chain_iff hops] at *
    intro r hfree
    obtain ⟨m, hm, hread⟩ := hl _ (free_operator op (right.operandText op.place.above tabs ++ r))
    obtain ⟨m, rfl⟩ : ∃ k, m = k + 1 := ⟨m - 1, by omega⟩
    refine ⟨m, by simp only [List.length_append, List.length_cons]; omega, ?_⟩
    have hlink : link op.place.ops (op.place.above.reader (grammar n) (n + 1))
        (' ' :: (op.symbol.toList ++ ' ' :: (right.operandText op.place.above tabs ++ r))) =
          some ((op, .ok right.reread), r) := by
      have hstop := hr.stop (by omega) hfree
      simp [link, operator_read, (blind_reader _ _ _).space, hstop]
    simp only [List.append_assoc, List.cons_append] at hread ⊢
    rw [hread, extend_step hlink rfl, Expr.reread]

lemma Expr.readable_conditional {test consequent alternate : Expr} (htest : test.Readable)
    (hconsequent : consequent.Readable) (halternate : alternate.Readable) :
    (Expr.conditional test consequent alternate).Readable where
  wellFormed := ⟨htest.wellFormed, hconsequent.wellFormed, halternate.wellFormed⟩
  reads n tabs hlen := by
    rw [Expr.text_conditional] at hlen ⊢
    simp only [List.length_append, List.length_cons] at hlen
    intro r hr
    have h1 (cs : List Char) : symbol "?" (' ' :: '?' :: ' ' :: cs) = some (' ' :: cs) := rfl
    have h2 (cs : List Char) : symbol ":" (' ' :: ':' :: ' ' :: cs) = some (' ' :: cs) := rfl
    have hread1 (cs : List Char) := (htest.operand tabs .or (n := n) (by omega)).stop (by omega)
      (r := ' ' :: '?' :: ' ' :: cs) (free_space rfl rfl _)
    have hread2 (cs : List Char) := hconsequent.expression tabs (n := n) (by omega)
      (r := ' ' :: ':' :: ' ' :: cs) (free_space rfl rfl _)
    have hread3 := halternate.expression tabs (n := n) (r := r) (by omega)
      ⟨hr.apart, fun c hc => hr.stops c hc⟩
    simp only [Place.reader] at hread1
    simp only [List.append_assoc, List.cons_append, Grammar.conditional, hread1, h1, (blind_expression n).space, hread2,
      h2, hread3, Option.bind_eq_bind, Option.bind_some]
    rfl

end Operators

section Functions

variable {e : Expr} {n tabs : Nat} {r : List Char}

lemma protect_expression (e : Expr) (tabs : Nat) : (protect (Printer.expression 0 tabs e)).toList =
    if (e.text tabs).head? = some '{' then '(' :: (e.text tabs ++ [')']) else e.text tabs := by
  have hbrace : opensBrace (Printer.expression 0 tabs e) = true ↔ (e.text tabs).head? = some '{' := by
    rw [opensBrace, beq_iff_eq, Expr.text]
  rw [protect]
  by_cases h : (e.text tabs).head? = some '{'
  · rw [if_pos (hbrace.2 h), if_pos h]
    simp [Expr.text]
  · rw [if_neg fun ho => h (hbrace.1 ho), if_neg h, Expr.text]

lemma params_brace {t : List Char} (ht : t.head? = some '{') (cs : List Char) (n : Nat) :
    params n ('(' :: (t ++ cs)) = none := by
  obtain ⟨t, rfl⟩ : ∃ u, t = '{' :: u := by
    cases t with
    | nil => simp at ht
    | cons c t => exact ⟨t, by simpa using ht⟩
  refine Leads.params_eq_none_of_identifier (identifier_eq_none ?_) rfl
  rw [List.cons_append, next?_cons rfl]
  simp [isNameStart]

lemma Expr.Readable.protected (h : e.Readable) (tabs : Nat)
    (hlen : (protect (Printer.expression 0 tabs e)).toList.length < n) (hr : Free 2 r) :
    (grammar n).expression ((protect (Printer.expression 0 tabs e)).toList ++ r) = some (.ok e.reread, r) := by
  rw [protect_expression] at hlen ⊢
  split at hlen
  · next hbrace =>
    rw [if_pos hbrace]
    obtain ⟨n, rfl⟩ : ∃ k, n = k + 1 := ⟨n - 1, by omega⟩
    simp only [List.length_cons, List.length_append] at hlen
    have hread := reads_parenthesized (n := n) (t := e.text tabs) (by omega) fun n => h.whole tabs
    have hbegins := begins_parenthesized fun n r => params_brace hbrace (')' :: r) n
    refine Reads.stop (p := .whole) (hread.lower hbegins ?_ (by decide)) ?_ hr
    · simp only [List.length_cons, List.length_append]
      omega
    · simp only [List.length_cons, List.length_append]
      omega
  · next hbrace =>
    rw [if_neg hbrace]
    exact h.expression tabs hlen hr

lemma Expr.Readable.symbol_protect (h : e.Readable) (tabs : Nat) (r : List Char) :
    symbol "\x7b" ((protect (Printer.expression 0 tabs e)).toList ++ r) = none := by
  rw [protect_expression]
  split
  · rfl
  · next hbrace =>
    obtain ⟨c, cs, hs, hc⟩ := Expr.text_opening h.wellFormed tabs
    rw [hs] at hbrace ⊢
    refine symbol_eq_none (c := '{') rfl ?_
    rwa [List.cons_append, next?_cons (isSolid_of_isOpening hc)]

def functionBody (g : Grammar) (n : Nat) : Reader (Checked Body) := fun cs =>
  ((g.block n cs).map fun (body, rest) => (body.map .block, rest)) <|>
    (g.expression cs).map fun (value, rest) => (value.map .expression, rest)

lemma blind_functionBody (n : Nat) : Blind (functionBody (grammar n) (n + 1)) := by
  intro c cs hc
  simp only [functionBody, block, blind_symbol _ c cs hc, blind_expression n c cs hc]

lemma arrow_of_functionBody {g : Grammar} {names : List String} {cs cs' : List Char} {body : Body}
    (hparams : params n cs = some (names, ' ' :: '=' :: '>' :: cs'))
    (hbody : functionBody g n cs' = some (.ok body, r)) : g.arrow n cs = some (.ok (.arrow names body), r) := by
  have harrow : symbol "=>" (' ' :: '=' :: '>' :: cs') = some cs' := rfl
  simp only [functionBody] at hbody
  cases hblock : g.block n cs' with
  | some result =>
    obtain ⟨block, rest⟩ := result
    rw [hblock] at hbody
    obtain ⟨hblock', rfl⟩ := Prod.mk.inj (Option.some.inj hbody)
    cases block with
    | error fault => cases hblock'
    | ok ss =>
      obtain rfl := Except.ok.inj hblock'
      simp [Grammar.arrow, hparams, harrow, hblock, Except.map]
  | none =>
    rw [hblock] at hbody
    cases hvalue : g.expression cs' with
    | none => simp [hvalue] at hbody
    | some result =>
      obtain ⟨value, rest⟩ := result
      rw [hvalue] at hbody
      obtain ⟨hvalue', rfl⟩ := Prod.mk.inj (Option.some.inj hbody)
      cases value with
      | error fault => cases hvalue'
      | ok value =>
        obtain rfl := Except.ok.inj hvalue'
        simp [Grammar.arrow, hparams, harrow, hblock, hvalue, Except.map]

lemma params_read {names : List String} (h : ∀ name ∈ names, isIdentifier name)
    (hlen : (joinWith ", " names).toList.length ≤ n) (cs : List Char) :
    params n ('(' :: ((joinWith ", " names).toList ++ ')' :: cs)) = some (names, cs) := by
  have h1 (cs : List Char) : symbol "(" ('(' :: cs) = some cs := rfl
  have h2 : symbol ")" (')' :: cs) = some cs := rfl
  have hforall (names : List String) (h : ∀ name ∈ names, isIdentifier name) (k : Nat) : List.Forall₂
      (fun t v => t.toList.length < k → ∀ r, Apart r → identifier (t.toList ++ r) = some (v, r)) names names := by
    refine List.forall₂_same.2 fun name hname _ r hr => ?_
    exact identifier_append (h name hname) hr
  cases names with
  | nil =>
    have hnone : identifier (')' :: cs) = none := identifier_eq_none (by rw [next?_cons rfl]; simp [isNameStart])
    simp [params, joinWith, h1, hnone, h2]
  | cons name names =>
    obtain ⟨hname, hnames⟩ := List.forall_mem_cons.1 h
    rw [joinWith_cons, List.length_append] at hlen
    have hclose : Apart (')' :: cs) := apart_cons rfl (by decide) cs
    have hmany := Reader.many_comma (P := Apart) (n := n) blind_identifier
        (fun cs => apart_cons rfl (by decide) cs) hclose
      rfl (hforall names hnames _) (Nat.lt_succ_self _) (by omega)
    have hapart : Apart ((names.flatMap fun t => ", ".toList ++ t.toList) ++ ')' :: cs) := by
      cases names with
      | nil => exact hclose
      | cons _ _ => exact apart_cons rfl (by decide) _
    rw [joinWith_cons, List.append_assoc]
    generalize (names.flatMap fun t => ", ".toList ++ t.toList) ++ ')' :: cs = rest at *
    simp [params, h1, identifier_append hname hapart, hmany, h2]

structure Body.Readable (body : Body) : Prop where
  wellFormed : body.WellFormed
  reads : ∀ n tabs r, (function tabs body).toList.length < n → Free 2 r →
    functionBody (grammar n) (n + 1) ((function tabs body).toList ++ r) = some (.ok body.reread, r)

lemma Body.readable_expression (h : e.Readable) : (Body.expression e).Readable where
  wellFormed := h.wellFormed
  reads n tabs r hlen hr := by
    rw [function, Expr.expression_arrowLevel] at hlen ⊢
    simp only [functionBody, Grammar.block, h.symbol_protect tabs r, h.protected tabs hlen hr]
    rfl

lemma Expr.readable_arrow {names : List String} (hnames : ∀ name ∈ names, isIdentifier name) {body : Body}
    (h : body.Readable) : (Expr.arrow names body).Readable where
  wellFormed := ⟨hnames, h.wellFormed⟩
  reads n tabs hlen := by
    rw [Expr.text_arrow] at hlen ⊢
    simp only [List.length_cons, List.length_append] at hlen
    intro r hr
    have hbody := h.reads n tabs r (by omega) hr
    have harrow : (grammar n).arrow (n + 1) ('(' :: ((joinWith ", " names).toList ++ ')' :: ' ' :: '=' :: '>' :: ' ' ::
        ((function tabs body).toList ++ r))) = some (.ok (.arrow names body.reread), r) := by
      refine arrow_of_functionBody (params_read hnames (by omega) _) ?_
      exact (blind_functionBody n).space _ |>.trans hbody
    simp only [List.cons_append, List.append_assoc, expressionOf, harrow]
    rfl

end Functions

end TemplateScript
