import TemplateScript.Proofs.Script.Subterms
import TemplateScript.Proofs.Script.WellFormed

/-!
What the programs that are read have in common. Their names are names of the language, except for those that stand in
tags, their numbers are not negative, and a piece of markup among their expressions is an element or a fragment.
-/

namespace TemplateScript

open Lexeme TemplateScript.Parser

def Subterm.IsRead : Subterm → Prop
  | .expression (.identifier name) => isIdentifier name
  | .expression (.literal (.number (.finite units _))) => 0 ≤ units
  | .expression (.member _ name) => isName name
  | .expression (.arrow params _) => ∀ name ∈ params, isIdentifier name
  | .expression (.markup node) => node.isTree
  | .statement (.importModule name _) => isIdentifier name
  | .statement (.declare _ name _) => isIdentifier name
  | .statement (.forOf name _ _) => isIdentifier name
  | .markup (.element tag _ _ _) => tag.WellFormed
  | _ => True

/-- Subterms as reading leaves them. The expressions that the names of tags stand for are left aside. -/
def AsRead (xs : List Subterm) : Prop :=
  ∀ x ∈ xs, x.IsRead ∨ ∃ tag attributes children closed,
    tag.WellFormed ∧ Subterm.markup (.element tag attributes children closed) ∈ xs ∧ x ∈ tag.subterms

namespace AsRead

variable {x : Subterm} {xs ys : List Subterm}

lemma nil : AsRead [] := by simp [AsRead]

lemma append (hx : AsRead xs) (hy : AsRead ys) : AsRead (xs ++ ys) := by
  intro x hmem
  rcases List.mem_append.1 hmem with hmem | hmem
  · rcases hx x hmem with h | ⟨tag, attributes, children, closed, htag, helement, h⟩
    · exact .inl h
    · exact .inr ⟨tag, attributes, children, closed, htag, List.mem_append_left _ helement, h⟩
  · rcases hy x hmem with h | ⟨tag, attributes, children, closed, htag, helement, h⟩
    · exact .inl h
    · exact .inr ⟨tag, attributes, children, closed, htag, List.mem_append_right _ helement, h⟩

lemma singleton (h : x.IsRead) : AsRead [x] := by
  intro y hy
  rw [List.mem_singleton.1 hy]
  exact .inl h

lemma cons (h : x.IsRead) (hs : AsRead xs) : AsRead (x :: xs) := (singleton h).append hs

lemma of_expression {e : Expr} (h : AsRead (.expression e :: xs)) : AsRead xs := by
  intro x hx
  rcases h x (List.mem_cons_of_mem _ hx) with h | ⟨tag, attributes, children, closed, htag, helement, h⟩
  · exact .inl h
  · refine .inr ⟨tag, attributes, children, closed, htag, ?_, h⟩
    simpa using helement

lemma element {tag : Tag} {attributes : List MarkupAttribute} {children : List Markup} (closed : Bool)
    (htag : tag.WellFormed) (hattributes : AsRead (MarkupAttribute.subterms attributes))
    (hchildren : AsRead (Markup.allSubterms children)) :
    AsRead (Markup.element tag attributes children closed).subterms := by
  rw [Markup.subterms, ← List.append_assoc, ← List.cons_append]
  suffices hopen : AsRead (.markup (.element tag attributes children closed) :: tag.subterms) by
    rw [← List.cons_append] at *
    rw [List.append_assoc]
    exact hopen.append (hattributes.append hchildren)
  intro x hx
  rcases List.mem_cons.1 hx with rfl | hx
  · exact .inl htag
  · exact .inr ⟨tag, attributes, children, closed, htag, List.mem_cons_self .., hx⟩

end AsRead

section Outcomes

variable {α β : Type} {P Q : α → Prop}

def Finds (x : Option (α × List Char)) (P : α → Prop) : Prop := ∀ a rest, x = some (a, rest) → P a

namespace Finds

variable {x y : Option (α × List Char)}

lemma some {a : α} {rest : List Char} (h : P a) : Finds (some (a, rest)) P := by
  rintro _ _ ⟨⟩
  exact h

lemma none : Finds (α := α) none P := by
  rintro _ _ ⟨⟩

lemma bind {z : Option β} {f : β → Option (α × List Char)} (h : ∀ b, z = .some b → Finds (f b) P) : Finds (z >>= f) P := by
  cases z with
  | none => exact none
  | some b => exact h b rfl

lemma map {z : Option (β × List Char)} {f : β × List Char → α × List Char}
    (h : ∀ b rest, z = .some (b, rest) → P (f (b, rest)).1) : Finds (z.map f) P := by
  cases z with
  | none => exact none
  | some b => exact some (h b.1 b.2 rfl)

lemma orElse (hx : Finds x P) (hy : Finds y P) : Finds (x <|> y) P := by
  cases x with
  | none => exact hy
  | some a => exact hx

end Finds

def Reader.Gives (r : Reader α) (P : α → Prop) : Prop := ∀ cs, Finds (r cs) P

lemma Reader.Gives.many {r : Reader α} (h : r.Gives P) (n : Nat) : Reader.Gives (r.many n) fun as => ∀ a ∈ as, P a := by
  induction n with
  | zero => exact fun cs => .some (by simp)
  | succ n ih =>
    intro cs
    rw [Reader.many]
    cases hcs : r cs with
    | none => exact .some (by simp)
    | some read =>
      obtain ⟨a, rest⟩ := read
      refine .map fun as rest' has => ?_
      exact List.forall_mem_cons.2 ⟨h cs a rest hcs, ih rest as rest' has⟩

lemma Reader.Gives.commaSeparated {r : Reader α} (h : r.Gives P) (n : Nat) :
    Reader.Gives (r.commaSeparated n) fun as => ∀ a ∈ as, P a := by
  intro cs
  rw [Reader.commaSeparated]
  cases hcs : r cs with
  | none => exact .some (by simp)
  | some read =>
    obtain ⟨a, rest⟩ := read
    refine .bind fun ⟨as, rest'⟩ has => .some ?_
    have hnext : Reader.Gives (fun cs => (symbol "," cs).bind r) P := fun cs => .bind fun cs' _ => h cs'
    exact List.forall_mem_cons.2 ⟨h cs a rest hcs, hnext.many n rest as rest' has⟩

def Checked.Read (f : α → List Subterm) (x : Checked α) : Prop := ∀ a, x = .ok a → AsRead (f a)

namespace Checked.Read

variable {f : α → List Subterm} {f' : β → List Subterm}

lemma ok {a : α} (h : AsRead (f a)) : Read f (.ok a) := by
  rintro _ ⟨⟩
  exact h

lemma error (fault : TagMismatch) : Read f (.error fault) := by
  rintro _ ⟨⟩

lemma bind {x : Checked α} {g : α → Checked β} (hx : Read f x) (hg : ∀ a, AsRead (f a) → Read f' (g a)) :
    Read f' (x >>= g) := by
  cases x with
  | error fault => exact error fault
  | ok a => exact hg a (hx a rfl)

lemma map {x : Checked α} {g : α → β} (hx : Read f x) (hg : ∀ a, AsRead (f a) → AsRead (f' (g a))) : Read f' (x.map g) := by
  cases x with
  | error fault => exact error fault
  | ok a => exact ok (hg a (hx a rfl))

lemma sequence {F : List α → List Subterm} (hnil : F [] = []) (hcons : ∀ a as, F (a :: as) = f a ++ F as)
    {xs : List (Checked α)} (h : ∀ x ∈ xs, Read f x) : Read F (Parser.sequence xs) := by
  induction xs with
  | nil =>
    refine ok ?_
    rw [hnil]
    exact .nil
  | cons x xs ih =>
    obtain ⟨hx, hxs⟩ := List.forall_mem_cons.1 h
    refine hx.bind fun a ha => (ih hxs).bind fun as has => ok ?_
    rw [hcons]
    exact ha.append has

end Checked.Read

end Outcomes

section Words

variable {s : String} {cs rest : List Char}

lemma Lexeme.isWord_of_word {start more : Char → Bool} (h : word start more cs = some (s, rest)) :
    isWord start more s.toList := by
  cases cs with
  | nil => cases h
  | cons c cs =>
    rw [word] at h
    split at h
    · next hstart =>
      cases h
      simp [isWord, hstart, List.all_takeWhile]
    · cases h

lemma Lexeme.isName_of_propertyName (h : propertyName cs = some (s, rest)) : isName s := isWord_of_word h

lemma Lexeme.isIdentifier_of_identifier (h : identifier cs = some (s, rest)) : isIdentifier s := by
  obtain ⟨⟨name, rest'⟩, hname, h⟩ := Option.bind_eq_some_iff.1 h
  simp only at h
  split at h
  · cases h
  · next hreserved =>
    cases h
    simpa [isIdentifier, isName_of_propertyName hname] using hreserved

lemma Lexeme.isTagName_of_tagName (h : tagName cs = some (s, rest)) : isTagName s := by
  unfold tagName at h
  split at h
  · obtain ⟨⟨name, rest'⟩, hname, h⟩ := Option.map_eq_some_iff.1 h
    cases h
    simpa [isTagName] using isWord_of_word hname
  · have hword := isWord_of_word h
    unfold isTagName
    split
    · next heq => simp [heq, isWord, isTagStart] at hword
    · exact hword

lemma Number.units_nonneg_of_ofDecimal {digits : Nat} {exponent units : Int} {exact}
    (h : ofDecimal false digits exponent = .finite units exact) : 0 ≤ units := by
  unfold ofDecimal zero ofUnits signed at h
  split at h
  · cases h
    omega
  · split at h
    · cases h
    · split at h
      · cases h
        omega
      · split at h
        · cases h
          simp
        · cases h

lemma Lexeme.isRead_number {x : Number} (h : number cs = some (x, rest)) :
    Subterm.IsRead (.expression (.literal (.number x))) := by
  obtain ⟨digits, exponent, rfl⟩ : ∃ digits exponent, x = .ofDecimal false digits exponent := by
    simp only [number] at h
    split at h
    · cases h
    · split at h
      all_goals
        split at h <;> cases h <;> exact ⟨_, _, rfl⟩
  cases hx : Number.ofDecimal false digits exponent with
  | finite units exact => exact Number.units_nonneg_of_ofDecimal hx
  | _ => trivial

end Words

namespace Parser.Grammar

open Checked

variable {g : Grammar} {n : Nat}

structure Sound (g : Grammar) : Prop where
  expression : Reader.Gives g.expression (Read Expr.subterms)
  statement : Reader.Gives g.statement fun s => ∀ checked ∈ s, Read Stmt.subterms checked

section Expressions

lemma item_read (hg : g.Sound) : Reader.Gives g.item (Read fun item => Item.subterms [item]) := by
  intro cs
  rw [item]
  split
  · refine .bind fun ⟨source, rest⟩ hsource => .some ?_
    exact (hg.expression _ _ _ hsource).map fun e he => by simpa using he
  · refine .bind fun ⟨value, rest⟩ hvalue => .some ?_
    exact (hg.expression _ _ _ hvalue).map fun e he => by simpa using he

lemma items_read (hg : g.Sound) (opening closing : String) :
    Reader.Gives (g.items n opening closing) (Read Item.subterms) := by
  intro cs
  refine .bind fun cs₁ _ => .bind fun ⟨parts, cs₂⟩ hparts => .bind fun cs₃ _ => .some ?_
  refine Read.sequence (by simp) ?_ ((item_read hg).commaSeparated n cs₁ parts cs₂ hparts)
  intro a as
  cases a <;> simp

lemma keyedProperty_read (hg : g.Sound) : Reader.Gives g.keyedProperty (Read fun p => Property.subterms [p]) := by
  intro cs
  simp only [keyedProperty]
  split
  all_goals
    refine .bind fun ⟨key, cs₁⟩ _ => .bind fun cs₂ _ => .bind fun ⟨value, cs₃⟩ hvalue => .some ?_
    exact (hg.expression _ _ _ hvalue).map fun e he => by simpa using he

lemma property_read (hg : g.Sound) : Reader.Gives g.property (Read fun p => Property.subterms [p]) := by
  intro cs
  rw [property]
  split
  · refine .bind fun ⟨source, rest⟩ hsource => .some ?_
    exact (hg.expression _ _ _ hsource).map fun e he => by simpa using he
  · refine .orElse (keyedProperty_read hg cs) (.bind fun ⟨name, rest⟩ hname => .some (.ok ?_))
    simp only [Property.subterms, Expr.subterms, List.append_nil]
    exact .singleton (isIdentifier_of_identifier hname)

lemma object_read (hg : g.Sound) : Reader.Gives (g.object n) (Read Expr.subterms) := by
  intro cs
  refine .bind fun cs₁ _ => .bind fun ⟨parts, cs₂⟩ hparts => .bind fun cs₃ _ => .some ?_
  have hread : Read Property.subterms (Parser.sequence parts) := by
    refine Read.sequence (by simp) ?_ ((property_read hg).commaSeparated n cs₁ parts cs₂ hparts)
    intro a as
    cases a <;> simp
  exact hread.map fun properties h => by
    rw [Expr.subterms]
    exact .cons trivial h

lemma statements_read {parts : List (Option (Checked Stmt))} (h : ∀ s ∈ parts, ∀ checked ∈ s, Read Stmt.subterms checked) :
    Read Stmt.allSubterms (Parser.sequence (parts.filterMap id)) := by
  refine Read.sequence (by simp) (fun _ _ => by rw [Stmt.allSubterms]) ?_
  intro checked hmem
  obtain ⟨s, hs, hchecked⟩ := List.mem_filterMap.1 hmem
  exact h s hs checked hchecked

lemma block_read (hg : g.Sound) : Reader.Gives (g.block n) (Read Stmt.allSubterms) := by
  intro cs
  refine .bind fun cs₁ _ => .bind fun ⟨parts, cs₂⟩ hparts => .bind fun cs₃ _ => .some ?_
  exact statements_read (hg.statement.many n cs₁ parts cs₂ hparts)

lemma params_read : Reader.Gives (params n) fun names => ∀ name ∈ names, isIdentifier name := by
  intro cs
  refine .orElse (.bind fun cs₁ _ => ?_) (.bind fun ⟨name, cs₁⟩ hname => .some ?_)
  · have hmore : Reader.Gives (fun cs => (symbol "," cs).bind identifier) fun name => isIdentifier name :=
      fun cs => .bind fun _ _ => fun _ _ h => isIdentifier_of_identifier h
    simp only
    split
    · exact .bind fun names hnames => .bind fun cs₃ _ => .some (by cases hnames; simp)
    · next name cs' hname =>
      refine .bind fun names hnames => .bind fun cs₃ _ => .some ?_
      obtain ⟨⟨rest, cs''⟩, hrest, rfl⟩ := Option.map_eq_some_iff.1 hnames
      exact List.forall_mem_cons.2 ⟨isIdentifier_of_identifier hname, hmore.many n _ _ _ hrest⟩
  · simpa using isIdentifier_of_identifier hname

lemma arrow_read (hg : g.Sound) : Reader.Gives (g.arrow n) (Read Expr.subterms) := by
  intro cs
  refine .bind fun ⟨names, cs₁⟩ hnames => .bind fun cs₂ _ => .orElse (.bind fun ⟨body, rest⟩ hbody => .some ?_)
    (.bind fun ⟨value, rest⟩ hvalue => .some ?_)
  · exact (block_read hg _ _ _ hbody).map fun ss hss => by
      rw [Expr.subterms, Body.subterms]
      exact .cons (params_read _ _ _ hnames) hss
  · exact (hg.expression _ _ _ hvalue).map fun e he => by
      rw [Expr.subterms, Body.subterms]
      exact .cons (params_read _ _ _ hnames) he

end Expressions

section Markup

lemma markupAttribute_read (hg : g.Sound) :
    Reader.Gives g.markupAttribute (Read fun a => MarkupAttribute.subterms [a]) := by
  intro cs
  refine .orElse (.bind fun cs₁ _ => .bind fun cs₂ _ => .bind fun ⟨source, cs₃⟩ hsource => .bind fun cs₄ _ => .some ?_)
    (.bind fun ⟨name, cs₁⟩ _ => ?_)
  · exact (hg.expression _ _ _ hsource).map fun e he => by simpa using he
  · simp only
    split
    · next value rest hvalue =>
      have hread : Read Expr.subterms value := by
        revert hvalue
        refine (show Finds _ (Read Expr.subterms) from ?_) value rest
        refine .bind fun cs₂ _ => .orElse (.bind fun ⟨⟨value, source⟩, cs₃⟩ _ => .some (.ok ?_))
          (.bind fun cs₃ _ => .bind fun ⟨value, cs₄⟩ hvalue => .bind fun cs₅ _ => .some (hg.expression _ _ _ hvalue))
        rw [Expr.subterms]
        exact .singleton trivial
      exact .some (hread.map fun e he => by simpa using he)
    · refine .some (.ok ?_)
      simpa using AsRead.nil

lemma container_read (hg : g.Sound) : Reader.Gives g.container (Read Markup.subterms) := by
  intro cs
  refine .bind fun cs₁ _ => ?_
  split
  next value cs₂ heq =>
  refine .bind fun cs₃ _ => .some ?_
  split at heq
  · next value rest hvalue =>
    cases heq
    refine (hg.expression _ _ _ hvalue).map fun e he => ?_
    rw [Markup.subterms]
    exact .cons trivial he
  · cases heq
    refine .ok ?_
    rw [Markup.subterms]
    exact .singleton trivial

lemma text_read : Reader.Gives text (Read Markup.subterms) := by
  intro cs
  simp only [text]
  split
  · exact .none
  · refine .some (.ok ?_)
    rw [Markup.subterms]
    exact .singleton trivial

lemma markup_read (hg : g.Sound) : ∀ n, Reader.Gives (g.markup n) (Read fun node => (Expr.markup node).subterms)
  | 0 => fun cs => .none
  | n + 1 => by
    -- Markup among the children is read one level deeper, and without the expression that stands around it elsewhere.
    have hchild : Reader.Gives (fun cs => g.markup n cs <|> g.container cs <|> text cs) (Read Markup.subterms) := by
      refine fun cs => .orElse (fun checked rest h node hnode => ?_) (.orElse (container_read hg cs) (text_read cs))
      have hread : AsRead (Expr.markup node).subterms := markup_read hg n cs checked rest h node hnode
      rw [Expr.subterms] at hread
      exact hread.of_expression
    have hparts {parts : List (Checked Markup)} {cs rest : List Char}
        (h : Reader.many (fun cs => g.markup n cs <|> g.container cs <|> text cs) (n + 1) cs = some (parts, rest)) :
        Read Markup.allSubterms (Parser.sequence parts) :=
      Read.sequence (by simp) (fun _ _ => by rw [Markup.allSubterms]) (hchild.many _ _ _ _ h)
    have hattributes {parts : List (Checked MarkupAttribute)} {cs rest : List Char}
        (h : Reader.many g.markupAttribute (n + 1) cs = some (parts, rest)) :
        Read MarkupAttribute.subterms (Parser.sequence parts) := by
      refine Read.sequence (by simp) ?_ ((markupAttribute_read hg).many _ _ _ _ h)
      intro a as
      rcases a with ⟨name, _ | value⟩ | source <;> simp
    intro cs
    simp only [markup]
    split
    · refine .bind fun ⟨parts, cs₁⟩ h => .bind fun cs₂ _ => .some ?_
      obtain ⟨⟨nodes, cs₃⟩, hnodes, heq⟩ := Option.bind_eq_some_iff.1 h
      cases heq
      refine (hparts hnodes).map fun nodes h => ?_
      rw [Expr.subterms, Markup.subterms]
      exact .cons rfl (.cons trivial h)
    · refine .bind fun cs₁ _ => .bind fun ⟨name, cs₂⟩ hname => .bind fun ⟨attributes, cs₃⟩ h =>
        .bind fun ⟨complete, cs₄⟩ _ => ?_
      have htag : (classifyTag name).WellFormed := ⟨name, isTagName_of_tagName hname, rfl⟩
      simp only
      split
      · refine .some ((hattributes h).map fun attributes hattributes => ?_)
        rw [Expr.subterms]
        exact .cons rfl (.element true htag hattributes (by rw [Markup.allSubterms]; exact .nil))
      · refine .bind fun ⟨parts, cs₅⟩ h' => .bind fun ⟨⟨closed, remaining⟩, cs₆⟩ _ => .some ?_
        obtain ⟨⟨nodes, cs₃⟩, hnodes, heq⟩ := Option.bind_eq_some_iff.1 h'
        cases heq
        refine (hattributes h).bind fun attributes hattributes => (hparts hnodes).bind fun nodes hnodes => ?_
        split
        · refine .ok ?_
          rw [Expr.subterms]
          exact .cons rfl (.element false htag hattributes hnodes)
        · exact .error _

end Markup

section Operators

lemma word_read : Reader.Gives word (Read Expr.subterms) := by
  refine fun cs => .bind fun ⟨name, cs₁⟩ hname => ?_
  have hliteral (l : Literal) (h : Subterm.IsRead (.expression (.literal l))) : Read Expr.subterms (.ok (.literal l)) := by
    refine .ok ?_
    rw [Expr.subterms]
    exact .singleton h
  simp only
  split
  · exact .some (hliteral _ trivial)
  · split
    · exact .some (hliteral _ trivial)
    · split
      · exact .some (hliteral _ trivial)
      · split
        · exact .some (hliteral _ trivial)
        · split
          · exact .none
          · next hreserved =>
            refine .some (.ok ?_)
            rw [Expr.subterms]
            exact .singleton (by simpa [Subterm.IsRead, isIdentifier, isName_of_propertyName hname] using hreserved)

lemma primary_read (hg : g.Sound) : Reader.Gives (g.primary n) (Read Expr.subterms) := by
  intro cs
  refine .orElse (.bind fun ⟨node, cs₁⟩ hnode => .some ?_) (.orElse (.bind fun ⟨⟨value, source⟩, cs₁⟩ _ => .some (.ok ?_))
    (.orElse (.bind fun ⟨value, cs₁⟩ hvalue => .some (.ok ?_)) (.orElse (.bind fun ⟨parts, cs₁⟩ hparts => .some ?_)
      (.orElse (object_read hg cs) (.orElse (.bind fun cs₁ _ => .bind fun ⟨value, cs₂⟩ hvalue => .bind fun cs₃ _ => .some ?_)
        (word_read cs))))))
  · exact (markup_read hg _ _ _ _ hnode).map fun _ h => h
  · rw [Expr.subterms]
    exact .singleton trivial
  · rw [Expr.subterms]
    exact .singleton (isRead_number hvalue)
  · refine (items_read hg _ _ _ _ _ hparts).map fun parts h => ?_
    rw [Expr.subterms]
    exact .cons trivial h
  · exact hg.expression _ _ _ hvalue

def Suffix.Read : Suffix → Prop
  | .call arguments => Checked.Read Item.subterms arguments
  | .member name => isName name
  | .index value => Checked.Read Expr.subterms value

lemma suffix_read (hg : g.Sound) : Reader.Gives (g.suffix n) Suffix.Read := by
  intro cs
  refine .orElse (.bind fun ⟨parts, cs₁⟩ hparts => .some ?_)
    (.orElse (.bind fun cs₁ _ => .bind fun ⟨name, cs₂⟩ hname => .some ?_)
    (.bind fun cs₁ _ => .bind fun ⟨value, cs₂⟩ hvalue => .bind fun cs₃ _ => .some ?_))
  · exact items_read hg _ _ _ _ _ hparts
  · exact isName_of_propertyName hname
  · exact hg.expression _ _ _ hvalue

lemma Suffix.apply_read {e : Expr} (he : AsRead e.subterms) {s : Suffix} (hs : s.Read) :
    Checked.Read Expr.subterms (Suffix.apply e s) := by
  cases s with
  | call arguments =>
    refine Checked.Read.map hs fun parts h => ?_
    rw [Expr.subterms]
    exact .cons trivial (he.append h)
  | member name =>
    refine .ok ?_
    rw [Expr.subterms]
    exact .cons hs he
  | index value =>
    refine Checked.Read.map hs fun index h => ?_
    rw [Expr.subterms]
    exact .cons trivial (he.append h)

lemma foldlM_read {β : Type} {f : Expr → β → Checked Expr} {P : β → Prop}
    (hf : ∀ e b, AsRead e.subterms → P b → Checked.Read Expr.subterms (f e b)) {bs : List β} (hbs : ∀ b ∈ bs, P b)
    {e : Expr} (he : AsRead e.subterms) : Checked.Read Expr.subterms (bs.foldlM f e) := by
  induction bs generalizing e with
  | nil => exact .ok he
  | cons b bs ih =>
    obtain ⟨hb, hbs⟩ := List.forall_mem_cons.1 hbs
    rw [List.foldlM_cons]
    exact (hf e b he hb).bind fun e' he' => ih hbs he'

lemma postfixed_read (hg : g.Sound) : Reader.Gives (g.postfixed n) (Checked.Read Expr.subterms) := by
  refine fun cs => .bind fun ⟨operand, cs₁⟩ hoperand => .bind fun ⟨suffixes, cs₂⟩ hsuffixes => .some ?_
  refine (primary_read hg _ _ _ hoperand).bind fun e he => ?_
  exact foldlM_read (P := Suffix.Read) (fun _ _ he hs => Suffix.apply_read he hs)
    ((suffix_read hg).many n _ _ _ hsuffixes) he

lemma unary_read (hg : g.Sound) : Reader.Gives (g.unary n) (Checked.Read Expr.subterms) := by
  refine fun cs => .bind fun ⟨signs, cs₁⟩ _ => .bind fun ⟨operand, cs₂⟩ hoperand => .some ?_
  refine (postfixed_read hg _ _ _ hoperand).map fun e he => ?_
  clear hoperand ‹_ = some (signs, cs₁)›
  -- Every sign wraps what the signs after it are applied to.
  induction signs generalizing e with
  | nil => exact he
  | cons sign signs ih =>
    refine ih (.not e) ?_
    rw [Expr.subterms]
    exact .cons trivial he

lemma chain_read {operand : Reader (Checked Expr)} (h : operand.Gives (Checked.Read Expr.subterms)) (ops : List BinaryOp) :
    Reader.Gives (chain n ops operand) (Checked.Read Expr.subterms) := by
  intro cs
  refine .bind fun first hfirst => .bind fun rest hrest => .some ((h _ _ _ hfirst).bind fun e he => ?_)
  refine foldlM_read (P := fun x => Checked.Read Expr.subterms x.2) (fun e x he hx => ?_)
    (Reader.Gives.many (fun cs => ?_) n _ _ _ hrest) he
  · refine Checked.Read.map hx fun right hright => ?_
    rw [Expr.subterms]
    exact .cons trivial (he.append hright)
  · exact .bind fun op _ => .bind fun e he => .some (h _ _ _ he)

lemma binary_read (hg : g.Sound) : Reader.Gives (g.binary n) (Checked.Read Expr.subterms) :=
  chain_read (chain_read (chain_read (chain_read (unary_read hg) _) _) _) _

lemma conditional_read (hg : g.Sound) : Reader.Gives (g.conditional n) (Checked.Read Expr.subterms) := by
  refine fun cs => .bind fun ⟨test, cs₁⟩ htest => ?_
  simp only
  split
  · next consequent alternate cs₂ hbranches =>
    have hread : Checked.Read Expr.subterms consequent ∧ Checked.Read Expr.subterms alternate := by
      revert hbranches
      refine (show Finds _ (fun x => Checked.Read Expr.subterms x.1 ∧ Checked.Read Expr.subterms x.2) from ?_)
        (consequent, alternate) cs₂
      exact .bind fun cs₂ _ => .bind fun ⟨consequent, cs₃⟩ hconsequent => .bind fun cs₄ _ =>
        .bind fun ⟨alternate, cs₅⟩ halternate => .some ⟨hg.expression _ _ _ hconsequent, hg.expression _ _ _ halternate⟩
    refine .some ((binary_read hg _ _ _ htest).bind fun test htest => hread.1.bind fun consequent hconsequent =>
      hread.2.bind fun alternate halternate => .ok ?_)
    rw [Expr.subterms]
    exact .cons trivial (htest.append (hconsequent.append halternate))
  · exact .some (binary_read hg _ _ _ htest)

lemma expressionOf_read (hg : g.Sound) : Reader.Gives (g.expressionOf n) (Checked.Read Expr.subterms) :=
  fun cs => .orElse (arrow_read hg cs) (conditional_read hg cs)

end Operators

section Statements

lemma importStatement_read : Reader.Gives importStatement (Read Stmt.subterms) := by
  refine fun cs => .bind fun cs₁ _ => .bind fun cs₂ _ => .bind fun cs₃ _ => .bind fun ⟨name, cs₄⟩ hname => .bind fun cs₅ _ =>
    .bind fun ⟨⟨path, source⟩, cs₆⟩ _ => .some (.ok ?_)
  rw [Stmt.subterms]
  exact .singleton (isIdentifier_of_identifier hname)

lemma declaration_read (hg : g.Sound) : Reader.Gives g.declaration (Read Stmt.subterms) := by
  refine fun cs => .bind fun ⟨kind, cs₁⟩ _ => .bind fun ⟨name, cs₂⟩ hname => .bind fun cs₃ _ => .bind fun ⟨value, cs₄⟩ hvalue =>
    .some ((hg.expression _ _ _ hvalue).map fun e he => ?_)
  rw [Stmt.subterms]
  exact .cons (isIdentifier_of_identifier hname) he

lemma bodyOf_read {s : Option (Checked Stmt)} (h : ∀ checked ∈ s, Read Stmt.subterms checked) :
    Read Stmt.subterms (bodyOf s) := by
  cases s with
  | none =>
    refine .ok ?_
    rw [Stmt.subterms, Stmt.allSubterms]
    exact .singleton trivial
  | some checked => exact h checked rfl

lemma branchOf_read {test : Checked Expr} {bodies : List (Checked Stmt)} (htest : Read Expr.subterms test)
    (hbodies : ∀ s ∈ bodies, Read Stmt.subterms s) : Read Stmt.subterms (do
      let alternate ← match bodies[1]? with
        | some s => s.map some
        | none => .ok none
      let test ← test
      let consequent ← bodyOf bodies[0]?
      return .branch test consequent alternate) := by
  have hconsequent : Read Stmt.subterms (bodyOf bodies[0]?) :=
    bodyOf_read fun s hs => hbodies s (List.mem_of_getElem? hs)
  simp only
  split
  · next s hs =>
    have halternate : Read (fun alternate => (alternate.map Stmt.subterms).getD []) (s.map some) :=
      (hbodies s (List.mem_of_getElem? hs)).map fun _ h => h
    refine halternate.bind fun alternate halternate => htest.bind fun test htest =>
      hconsequent.bind fun consequent hconsequent => .ok ?_
    cases alternate with
    | none =>
      rw [Stmt.subterms]
      exact .cons trivial (htest.append hconsequent)
    | some alternate =>
      rw [Stmt.subterms]
      exact .cons trivial (htest.append (hconsequent.append halternate))
  · refine htest.bind fun test htest => hconsequent.bind fun consequent hconsequent => .ok ?_
    rw [Stmt.subterms]
    exact .cons trivial (htest.append hconsequent)

lemma branch_read (hg : g.Sound) : Reader.Gives g.branch (Read Stmt.subterms) := by
  refine fun cs => .bind fun cs₁ _ => .bind fun cs₂ _ => .bind fun ⟨test, cs₃⟩ htest => .bind fun cs₄ _ =>
    .bind fun ⟨first, cs₅⟩ hfirst => .some (branchOf_read (hg.expression _ _ _ htest) fun s hmem => ?_)
  obtain ⟨body, hbody, hs⟩ := List.mem_filterMap.1 hmem
  have hsecond : ∀ checked ∈ (((keyword "else" cs₅).bind g.statement).getD (none, cs₅)).1, Read Stmt.subterms checked := by
    cases helse : (keyword "else" cs₅).bind g.statement with
    | none => simp
    | some read =>
      obtain ⟨cs₆, -, hread⟩ := Option.bind_eq_some_iff.1 helse
      exact hg.statement cs₆ read.1 read.2 hread
  rcases List.mem_cons.1 hbody with rfl | hbody
  · exact hg.statement _ _ _ hfirst s hs
  · obtain rfl := List.mem_singleton.1 hbody
    exact hsecond s hs

lemma loop_read (hg : g.Sound) : Reader.Gives g.loop (Read Stmt.subterms) := by
  refine fun cs => .bind fun cs₁ _ => .bind fun cs₂ _ => .bind fun ⟨kind, cs₃⟩ _ => .bind fun ⟨name, cs₄⟩ hname =>
    .bind fun cs₅ _ => .bind fun ⟨source, cs₆⟩ hsource => .bind fun cs₇ _ => .bind fun ⟨body, cs₈⟩ hbody => .some ?_
  refine (hg.expression _ _ _ hsource).bind fun source hsource =>
    (bodyOf_read (hg.statement _ _ _ hbody)).bind fun body hbody => .ok ?_
  rw [Stmt.subterms]
  exact .cons (isIdentifier_of_identifier hname) (hsource.append hbody)

lemma leave_read (hg : g.Sound) : Reader.Gives g.leave (Read Stmt.subterms) := by
  refine fun cs => .bind fun cs₁ _ => ?_
  simp only
  split
  · next value rest hvalue =>
    split at hvalue
    · cases hvalue
    · refine .some ((hg.expression _ _ _ hvalue).map fun e he => ?_)
      rw [Stmt.subterms]
      exact .cons trivial he
  · refine .some (.ok ?_)
    rw [Stmt.subterms]
    exact .singleton trivial

lemma statementOf_read (hg : g.Sound) :
    Reader.Gives (g.statementOf n) fun s => ∀ checked ∈ s, Read Stmt.subterms checked := by
  have hkept {r : Reader (Checked Stmt)} (h : r.Gives (Read Stmt.subterms)) (cs : List Char) :
      Finds ((r cs).map fun x => (some x.1, x.2)) fun s => ∀ checked ∈ s, Read Stmt.subterms checked :=
    .map fun s rest hs checked hchecked => by
      cases hchecked
      exact h _ _ _ hs
  have hblock : Reader.Gives (fun cs => (g.block n cs).map fun x => (x.1.map Stmt.block, x.2))
      (Read Stmt.subterms) :=
    fun cs => .map fun body rest hbody => (block_read hg _ _ _ hbody).map fun ss hss => by
      rw [Stmt.subterms]
      exact .cons trivial hss
  have hexpression : Reader.Gives (fun cs => (g.expression cs).map fun x => (x.1.map Stmt.expression, semicolon x.2))
      (Read Stmt.subterms) :=
    fun cs => .map fun value rest hvalue => (hg.expression _ _ _ hvalue).map fun e he => by
      rw [Stmt.subterms]
      exact .cons trivial he
  intro cs
  have hlone : Finds ((symbol ";" cs).map fun cs => (none, cs)) fun s => ∀ checked ∈ s, Read Stmt.subterms checked := by
    intro s rest hs
    obtain ⟨cs', -, heq⟩ := Option.map_eq_some_iff.1 hs
    cases heq
    simp
  exact .orElse (hkept importStatement_read cs) (.orElse (hkept (declaration_read hg) cs) (.orElse (hkept (branch_read hg) cs)
    (.orElse (hkept (loop_read hg) cs) (.orElse (hkept (leave_read hg) cs) (.orElse (hkept hblock cs)
      (.orElse (hkept hexpression cs) hlone))))))

end Statements

end Parser.Grammar

lemma Parser.grammar_sound : ∀ n, (grammar n).Sound
  -- By induction on the depth: the grammar of one level reads its parts by the grammar of the level below.
  | 0 => ⟨fun _ => .none, fun _ => .none⟩
  | n + 1 => ⟨Grammar.expressionOf_read (grammar_sound n), Grammar.statementOf_read (grammar_sound n)⟩

lemma Program.asRead_of_parse {source : String} {p : Program} (h : Program.parse source = .ok p) : AsRead p.subterms := by
  simp only [Program.parse, readAll] at h
  split at h
  · cases h
  · next checked rest hread =>
    obtain ⟨⟨parts, rest⟩, hparts, heq⟩ := Option.map_eq_some_iff.1 hread
    cases heq
    split at h
    · have hsound := Grammar.statements_read ((grammar_sound _).statement.many _ _ _ _ hparts)
      split at h
      · next p' hp =>
        cases h
        exact hsound p hp
      · cases h
    · cases h

end TemplateScript
