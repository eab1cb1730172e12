import TemplateScript.Proofs.Document.Compaction
import TemplateScript.Proofs.Document.Representations
import TemplateScript.Script.Lexeme

/-!
The text of a tree determines the tree. What stands in a text or in an attribute never begins a tag, ends a value or
joins two texts, so trees of proper names that are compacted have the same text only if they are the same.
-/

namespace TemplateScript

section Escaping

lemma escapeChar_eq_cons (c : Char) : ∃ first rest, escapeChar c = first :: rest ∧ first ≠ '<' ∧ first ≠ '"' := by
  simp only [escapeChar]
  split_ifs with h₁ h₂ h₃ h₄ h₅
  all_goals first
    | exact ⟨_, _, rfl, by decide, by decide⟩
    | exact ⟨c, [], rfl, h₂, h₄⟩

lemma escapeChar_append_inj {c d : Char} {xs ys : List Char} (h : escapeChar c ++ xs = escapeChar d ++ ys) :
    c = d ∧ xs = ys := by
  simp only [escapeChar] at h
  split_ifs at h <;> simp only [List.cons_append, List.nil_append, List.cons.injEq] at h <;> grind

def EndsEscaped (cs : List Char) : Prop := ∀ c ∈ cs.head?, c = '<' ∨ c = '"'

lemma endsEscaped_ne {cs xs : List Char} (h : EndsEscaped cs) (c : Char) : cs ≠ escapeChar c ++ xs := by
  rintro rfl
  obtain ⟨first, rest, he, hlt, hq⟩ := escapeChar_eq_cons c
  have := h first (by simp [he])
  simp_all

lemma escaped_append_inj {as bs xs ys : List Char} (hx : EndsEscaped xs) (hy : EndsEscaped ys)
    (h : as.flatMap escapeChar ++ xs = bs.flatMap escapeChar ++ ys) : as = bs ∧ xs = ys := by
  induction as generalizing bs with
  | nil =>
    cases bs with
    | nil => exact ⟨rfl, h⟩
    | cons b bs =>
      rw [List.flatMap_cons, List.append_assoc] at h
      exact absurd h (endsEscaped_ne hx b)
  | cons a as ih =>
    cases bs with
    | nil =>
      rw [List.flatMap_cons, List.append_assoc] at h
      exact absurd h.symm (endsEscaped_ne hy a)
    | cons b bs =>
      rw [List.flatMap_cons, List.flatMap_cons, List.append_assoc, List.append_assoc] at h
      obtain ⟨rfl, hrest⟩ := escapeChar_append_inj h
      obtain ⟨rfl, rfl⟩ := ih hrest
      exact ⟨rfl, rfl⟩

end Escaping

section Names

variable {p : Char → Bool}

lemma word_append_inj {as bs xs ys : List Char} (ha : ∀ c ∈ as, p c) (hb : ∀ c ∈ bs, p c)
    (hx : ∀ c ∈ xs.head?, p c = false) (hy : ∀ c ∈ ys.head?, p c = false) (h : as ++ xs = bs ++ ys) :
    as = bs ∧ xs = ys := by
  induction as generalizing bs with
  | nil =>
    cases bs with
    | nil => exact ⟨rfl, h⟩
    | cons b bs =>
      have hf := hx b (by simp [show xs = b :: (bs ++ ys) from h])
      simp [hb b List.mem_cons_self] at hf
  | cons a as ih =>
    cases bs with
    | nil =>
      have hf := hy a (by simp [show ys = a :: (as ++ xs) from h.symm])
      simp [ha a List.mem_cons_self] at hf
    | cons b bs =>
      obtain ⟨rfl, hrest⟩ := List.cons.inj h
      obtain ⟨rfl, rfl⟩ := ih (fun c hc => ha c (List.mem_cons_of_mem _ hc)) (fun c hc => hb c (List.mem_cons_of_mem _ hc))
        hrest
      exact ⟨rfl, rfl⟩

end Names

open Lexeme

def isElementName (tag : String) : Bool := isWord isTagStart isTagChar tag.toList

lemma isTagChar_of_isTagStart {c : Char} (h : isTagStart c) : isTagChar c := by
  simp only [isTagStart, isTagChar, Char.isAlphanum, Bool.or_eq_true] at h ⊢
  tauto

lemma tagChars_of_isElementName {tag : String} (h : isElementName tag) : ∀ c ∈ tag.toList, isTagChar c := by
  simp only [isElementName] at h
  cases hs : tag.toList with
  | nil => simp
  | cons first rest =>
    simp only [hs, isWord, Bool.and_eq_true, List.all_eq_true] at h
    intro c hc
    rcases List.mem_cons.1 hc with rfl | hc
    · exact isTagChar_of_isTagStart h.1
    · exact h.2 c hc

lemma tagChars_of_isAttributeName {name : String} (h : isAttributeName name) : ∀ c ∈ name.toList, isTagChar c := by
  simp only [isAttributeName] at h
  cases hs : name.toList with
  | nil => simp
  | cons first rest =>
    simp only [hs, isWord, Bool.and_eq_true, List.all_eq_true] at h
    intro c hc
    rcases List.mem_cons.1 hc with rfl | hc
    · have hstart := h.1
      simp only [isAttributeStart, isTagChar, Char.isAlphanum, Bool.or_eq_true] at hstart ⊢
      tauto
    · exact h.2 c hc

section Attributes

def Attribute.tail : Attribute → List Char
  | .bare => []
  | .text s => '=' :: '"' :: s.toList.flatMap escapeChar ++ ['"']

lemma Attribute.head_tail (a : Attribute) {c : Char} {xs : List Char} (hc : isTagChar c = false) :
    ∀ x ∈ (a.tail ++ c :: xs).head?, isTagChar x = false := by
  cases a with
  | bare => simp [Attribute.tail, hc]
  | text s => simp [Attribute.tail, show isTagChar '=' = false by decide]

lemma Attribute.tail_append_inj {a b : Attribute} {c d : Char} {xs ys : List Char} (hc : c ≠ '=') (hd : d ≠ '=')
    (h : a.tail ++ c :: xs = b.tail ++ d :: ys) : a = b ∧ c :: xs = d :: ys := by
  cases a with
  | bare =>
    cases b with
    | bare => exact ⟨rfl, h⟩
    | text s => exact absurd (List.cons.inj h).1 hc
  | text s =>
    cases b with
    | bare => exact absurd (List.cons.inj h).1.symm hd
    | text s' =>
      have hq (xs : List Char) : EndsEscaped ('"' :: xs) := by simp [EndsEscaped]
      obtain ⟨hs, hr⟩ := escaped_append_inj (hq (c :: xs)) (hq (d :: ys)) (by simpa [Attribute.tail] using h)
      exact ⟨by rw [String.toList_injective hs], (List.cons.inj hr).2⟩

def Entries.chars (es : List (String × Attribute)) : List Char := es.flatMap fun e => ' ' :: e.1.toList ++ e.2.tail

lemma Attributes.toList_render (attributes : Attributes) : attributes.render.toList = Entries.chars attributes.entries := by
  have hr (name : String) (a : Attribute) : (a.render name).toList = ' ' :: name.toList ++ a.tail := by
    cases a <;> simp [Attribute.render, Attribute.tail, escapeText]
  simp only [Attributes.render, Entries.chars]
  induction attributes.entries with
  | nil => simp
  | cons e es ih => simp [String.join_cons, hr, ih]

lemma Entries.head_chars (es : List (String × Attribute)) (xs : List Char) :
    ∃ c rest, Entries.chars es ++ '>' :: xs = c :: rest ∧ isTagChar c = false ∧ c ≠ '=' := by
  cases es with
  | nil => exact ⟨'>', xs, rfl, by decide, by decide⟩
  | cons e es => exact ⟨' ', _, by simp [Entries.chars]; rfl, by decide, by decide⟩

lemma Entries.chars_append_inj {es fs : List (String × Attribute)} {xs ys : List Char}
    (he : ∀ e ∈ es, isAttributeName e.1) (hf : ∀ e ∈ fs, isAttributeName e.1)
    (h : Entries.chars es ++ '>' :: xs = Entries.chars fs ++ '>' :: ys) : es = fs ∧ xs = ys := by
  induction es generalizing fs with
  | nil =>
    cases fs with
    | nil => exact ⟨rfl, by simpa [Entries.chars] using h⟩
    | cons f fs => simp [Entries.chars] at h
  | cons e es ih =>
    cases fs with
    | nil => simp [Entries.chars] at h
    | cons f fs =>
      obtain ⟨name, a⟩ := e
      obtain ⟨name', b⟩ := f
      obtain ⟨c, rest, hc, hct, hce⟩ := Entries.head_chars es xs
      obtain ⟨d, rest', hd, hdt, hde⟩ := Entries.head_chars fs ys
      have hsplit : name.toList ++ (a.tail ++ (Entries.chars es ++ '>' :: xs)) =
          name'.toList ++ (b.tail ++ (Entries.chars fs ++ '>' :: ys)) := by
        simpa [Entries.chars] using h
      have hname := tagChars_of_isAttributeName (he _ List.mem_cons_self)
      have hname' := tagChars_of_isAttributeName (hf _ List.mem_cons_self)
      rw [hc, hd] at hsplit
      obtain ⟨hn, htails⟩ := word_append_inj hname hname' (a.head_tail hct) (b.head_tail hdt) hsplit
      obtain rfl := String.toList_injective hn
      obtain ⟨rfl, hr⟩ := Attribute.tail_append_inj hce hde htails
      obtain ⟨rfl, rfl⟩ := ih (fun e hm => he e (List.mem_cons_of_mem _ hm)) (fun e hm => hf e (List.mem_cons_of_mem _ hm))
        (hc.trans (hr.trans hd.symm))
      exact ⟨rfl, rfl⟩

end Attributes

namespace Node

def closing (tag : String) : List Char := if isVoidTag tag then [] else '<' :: '/' :: tag.toList ++ ['>']

mutual

def chars : Node → List Char
  | .text s => s.toList.flatMap escapeChar
  | .prerendered html => html.toList
  | .element tag attributes children =>
    '<' :: tag.toList ++ Entries.chars attributes.entries ++ '>' :: charsAll children ++ closing tag

def charsAll : List Node → List Char
  | [] => []
  | node :: nodes => node.chars ++ charsAll nodes

end

mutual

lemma toList_html : (node : Node) → {raw : RawNode} → node.rebuild rawBuilder = .ok raw → raw.html.toList = node.chars
  | .text s, raw, h => by
    simp only [rebuild, rawBuilder, Except.ok.injEq] at h
    simp [← h, chars, escapeText]
  | .prerendered html, raw, h => by
    simp only [rebuild, rawBuilder, Except.ok.injEq] at h
    simp [← h, chars]
  | .element tag attributes children, raw, h => by
    simp only [rebuild] at h
    obtain ⟨raws, hr, he⟩ := bind_eq_ok_iff.1 h
    have hc := toList_htmls children hr
    simp only [rawBuilder] at he
    obtain ⟨_, -, he⟩ := bind_eq_ok_iff.1 he
    obtain rfl := Except.ok.inj he
    simp only [Attributes.normalize_values, chars, closing, String.toList_append, Attributes.toList_render, hc]
    split <;> simp

lemma toList_htmls : (nodes : List Node) → {raws : List RawNode} → rebuildAll rawBuilder nodes = .ok raws →
    (String.join (raws.map RawNode.html)).toList = charsAll nodes
  | [], raws, h => by
    simp only [rebuildAll, Except.ok.injEq] at h
    simp [← h, charsAll]
  | node :: nodes, raws, h => by
    simp only [rebuildAll] at h
    obtain ⟨raw, hr, h⟩ := bind_eq_ok_iff.1 h
    obtain ⟨rest, hs, h⟩ := bind_eq_ok_iff.1 h
    obtain rfl := Except.ok.inj h
    simp [String.join_cons, charsAll, toList_html node hr, toList_htmls nodes hs]

end

/-- A tree whose text can be read back: its names are proper, its children joined, and void elements have none. -/
inductive Readable : Node → Prop
  | text (s : String) : Readable (.text s)
  | element {tag : String} {attributes : Attributes} {children : List Node} :
    isElementName tag → (∀ e ∈ attributes.entries, isAttributeName e.1) → (isVoidTag tag → children = []) →
    Joined children → (∀ child ∈ children, Readable child) → Readable (.element tag attributes children)

def EndsChildren (cs : List Char) : Prop := cs = [] ∨ ∃ rest, cs = '<' :: '/' :: rest

lemma EndsChildren.endsEscaped {cs : List Char} (h : EndsChildren cs) : EndsEscaped cs := by
  rcases h with rfl | ⟨rest, rfl⟩ <;> simp [EndsEscaped]

lemma chars_text {s : String} (hs : s ≠ "") (xs : List Char) :
    ∃ c rest, (Node.text s).chars ++ xs = c :: rest ∧ c ≠ '<' := by
  cases hl : s.toList with
  | nil => exact absurd (String.toList_injective hl) hs
  | cons c cs =>
    obtain ⟨first, rest, he, hlt, -⟩ := escapeChar_eq_cons c
    exact ⟨first, rest ++ (cs.flatMap escapeChar ++ xs), by simp [chars, hl, he], hlt⟩

lemma chars_element {tag : String} (ht : isElementName tag) (attributes : Attributes) (children : List Node)
    (xs : List Char) : ∃ c rest, (Node.element tag attributes children).chars ++ xs = '<' :: c :: rest ∧ c ≠ '/' := by
  simp only [isElementName] at ht
  cases hl : tag.toList with
  | nil => simp [hl, isWord] at ht
  | cons c cs =>
    simp only [hl, isWord, Bool.and_eq_true] at ht
    refine ⟨c, _, by simp [chars, hl]; rfl, ?_⟩
    rintro rfl
    exact absurd ht.1 (by decide)

def EndsText (node : Node) (xs : List Char) : Prop := ∀ s, node = .text s → EndsEscaped xs ∧ (s = "" → xs = [])

lemma chars_text_ne_element {s tag : String} {xs ys : List Char} (hs : EndsText (.text s) xs) (ht : isElementName tag)
    (attributes : Attributes) (children : List Node) :
    (Node.text s).chars ++ xs ≠ (Node.element tag attributes children).chars ++ ys := by
  obtain ⟨d, rest', hd, -⟩ := chars_element ht attributes children ys
  rw [hd]
  by_cases h : s = ""
  · rw [(hs s rfl).2 h, h]
    simp [chars]
  · obtain ⟨c, rest, hc, hlt⟩ := chars_text h xs
    rw [hc]
    exact fun h => hlt (List.cons.inj h).1

lemma EndsChildren.ne_chars {node : Node} {nodes : List Node} {cs xs : List Char} (h : EndsChildren cs)
    (hj : Joined (node :: nodes)) (hr : Readable node) : cs ≠ node.chars ++ xs := by
  cases hr with
  | text s =>
    obtain ⟨c, rest, hc, hlt⟩ := chars_text hj.1 xs
    rw [hc]
    rcases h with rfl | ⟨more, rfl⟩
    · simp
    · exact fun h => hlt (List.cons.inj h).1.symm
  | @element tag attributes children ht =>
    obtain ⟨c, rest, hc, hs⟩ := chars_element ht attributes children xs
    rw [hc]
    rcases h with rfl | ⟨more, rfl⟩
    · simp
    · exact fun h => hs (List.cons.inj (List.cons.inj h).2).1.symm

lemma endsChildren_closing {tag : String} (h : isVoidTag tag = false) (xs : List Char) :
    EndsChildren (closing tag ++ xs) :=
  .inr ⟨_, by simp [closing, h]; rfl⟩

lemma endsText_charsAll {node : Node} {nodes : List Node} {xs : List Char} (hj : Joined (node :: nodes))
    (hr : ∀ node ∈ nodes, Readable node) (hx : EndsChildren xs) : EndsText node (charsAll nodes ++ xs) := by
  rintro s rfl
  refine ⟨?_, fun h => absurd h hj.1⟩
  cases nodes with
  | nil => simpa [charsAll] using hx.endsEscaped
  | cons node nodes =>
    cases hr node List.mem_cons_self with
    | text t => exact absurd rfl (hj.2.1 t)
    | element ht =>
      obtain ⟨c, rest, hc, -⟩ := chars_element ht _ _ (charsAll nodes ++ xs)
      rw [charsAll, List.append_assoc, hc]
      simp [EndsEscaped]

lemma not_isTagChar_head (es : List (String × Attribute)) (xs : List Char) :
    ∀ c ∈ (Entries.chars es ++ '>' :: xs).head?, isTagChar c = false := by
  obtain ⟨c, rest, hc, ht, -⟩ := Entries.head_chars es xs
  simp [hc, ht]

lemma element_append_inj {tag tag' : String} {attributes attributes' : Attributes} {children children' : List Node}
    {xs ys : List Char} (hr : Readable (.element tag attributes children))
    (hr' : Readable (.element tag' attributes' children'))
    (hchildren : ∀ xs ys, EndsChildren xs → EndsChildren ys → charsAll children ++ xs = charsAll children' ++ ys →
      children = children' ∧ xs = ys)
    (h : (Node.element tag attributes children).chars ++ xs = (Node.element tag' attributes' children').chars ++ ys) :
    Node.element tag attributes children = .element tag' attributes' children' ∧ xs = ys := by
  obtain _ | ⟨hn, ha, hv, -, -⟩ := hr
  obtain _ | ⟨hn', ha', hv', -, -⟩ := hr'
  have hopen : tag.toList ++ (Entries.chars attributes.entries ++ '>' :: (charsAll children ++ (closing tag ++ xs))) =
      tag'.toList ++ (Entries.chars attributes'.entries ++ '>' :: (charsAll children' ++ (closing tag' ++ ys))) := by
    simpa [chars] using h
  obtain ⟨htag, hattributes⟩ := word_append_inj (tagChars_of_isElementName hn) (tagChars_of_isElementName hn')
    (not_isTagChar_head _ _) (not_isTagChar_head _ _) hopen
  obtain rfl := String.toList_injective htag
  obtain ⟨hentries, hcontent⟩ := Entries.chars_append_inj ha ha' hattributes
  obtain rfl := OrderedMap.ext hentries
  cases hvoid : isVoidTag tag with
  | true =>
    obtain rfl := hv hvoid
    obtain rfl := hv' hvoid
    exact ⟨rfl, by simpa [charsAll, closing, hvoid] using hcontent⟩
  | false =>
    obtain ⟨rfl, hend⟩ := hchildren _ _ (endsChildren_closing hvoid xs) (endsChildren_closing hvoid ys) hcontent
    exact ⟨rfl, List.append_cancel_left hend⟩

mutual

lemma chars_append_inj {xs ys : List Char} : (node node' : Node) → Readable node → Readable node' → EndsText node xs →
    EndsText node' ys → node.chars ++ xs = node'.chars ++ ys → node = node' ∧ xs = ys
  | .text s, .text s', _, _, hx, hy, h => by
    rw [chars, chars] at h
    obtain ⟨hs, hend⟩ := escaped_append_inj (hx s rfl).1 (hy s' rfl).1 h
    exact ⟨by rw [String.toList_injective hs], hend⟩
  | .text s, .element tag attributes children, _, .element ht _ _ _ _, hx, _, h =>
    absurd h (chars_text_ne_element hx ht attributes children)
  | .element tag attributes children, .text s, .element ht _ _ _ _, _, _, hy, h =>
    absurd h.symm (chars_text_ne_element hy ht attributes children)
  | .element _ _ children, .element _ _ children', hr@(.element _ _ _ hj hc), hr'@(.element _ _ _ hj' hc'), _, _, h =>
    element_append_inj hr hr' (charsAll_append_inj children children' hj hj' hc hc') h

lemma charsAll_append_inj : (nodes nodes' : List Node) → Joined nodes → Joined nodes' →
    (∀ node ∈ nodes, Readable node) → (∀ node ∈ nodes', Readable node) → ∀ xs ys, EndsChildren xs → EndsChildren ys →
    charsAll nodes ++ xs = charsAll nodes' ++ ys → nodes = nodes' ∧ xs = ys
  | [], [], _, _, _, _, _, _, _, _, h => ⟨rfl, by simpa [charsAll] using h⟩
  | [], node' :: nodes', _, hj', _, hr', _, _, hx, _, h => by
    rw [charsAll, charsAll, List.nil_append, List.append_assoc] at h
    exact absurd h (hx.ne_chars hj' (hr' _ List.mem_cons_self))
  | node :: nodes, [], hj, _, hr, _, _, _, _, hy, h => by
    rw [charsAll, charsAll, List.nil_append, List.append_assoc] at h
    exact absurd h.symm (hy.ne_chars hj (hr _ List.mem_cons_self))
  | node :: nodes, node' :: nodes', hj, hj', hr, hr', xs, ys, hx, hy, h => by
    have hrest := fun node hm => hr node (List.mem_cons_of_mem _ hm)
    have hrest' := fun node hm => hr' node (List.mem_cons_of_mem _ hm)
    rw [charsAll, charsAll, List.append_assoc, List.append_assoc] at h
    obtain ⟨rfl, hafter⟩ := chars_append_inj node node' (hr _ List.mem_cons_self) (hr' _ List.mem_cons_self)
      (endsText_charsAll hj hrest hx) (endsText_charsAll hj' hrest' hy) h
    obtain ⟨rfl, hend⟩ := charsAll_append_inj nodes nodes' hj.tail hj'.tail hrest hrest' xs ys hx hy hafter
    exact ⟨rfl, hend⟩

end

mutual

def wellNamed : Node → Bool
  | .text _ => true
  | .prerendered _ => false
  | .element tag attributes children =>
    isElementName tag && attributes.entries.all (fun e => isAttributeName e.1) && wellNamedAll children

def wellNamedAll : List Node → Bool
  | [] => true
  | node :: nodes => node.wellNamed && wellNamedAll nodes

end

lemma eq_nil_of_rebuildAll {N : Type} {b : Builder N} {nodes : List Node} (h : rebuildAll b nodes = .ok []) :
    nodes = [] := by
  cases nodes with
  | nil => rfl
  | cons node nodes =>
    simp only [rebuildAll] at h
    obtain ⟨_, -, h⟩ := bind_eq_ok_iff.1 h
    obtain ⟨_, -, h⟩ := bind_eq_ok_iff.1 h
    simp [pure, Except.pure] at h

mutual

lemma readable_of_compact : (node : Node) → {raw : RawNode} → node.wellNamed → node.compact = node →
    node.rebuild rawBuilder = .ok raw → Readable node
  | .text s, _, _, _, _ => .text s
  | .element tag attributes children, raw, hn, hc, h => by
    simp only [wellNamed, Bool.and_eq_true, List.all_eq_true] at hn
    simp only [rebuild] at h
    obtain ⟨raws, hr, he⟩ := bind_eq_ok_iff.1 h
    obtain ⟨_, hcheck, -⟩ := bind_eq_ok_iff.1 he
    obtain ⟨hj, hcompact⟩ := children_of_compact hc
    refine .element hn.1.1 hn.1.2 (fun hv => ?_) hj (readable_of_compacts children hn.2 hcompact hr)
    obtain rfl := nil_of_void hcheck hv
    exact eq_nil_of_rebuildAll hr

lemma readable_of_compacts : (nodes : List Node) → {raws : List RawNode} → wellNamedAll nodes →
    (∀ node ∈ nodes, node.compact = node) → rebuildAll rawBuilder nodes = .ok raws → ∀ node ∈ nodes, Readable node
  | [], _, _, _, _ => by simp
  | node :: nodes, raws, hn, hc, h => by
    simp only [wellNamedAll, Bool.and_eq_true] at hn
    simp only [rebuildAll] at h
    obtain ⟨raw, hr, h⟩ := bind_eq_ok_iff.1 h
    obtain ⟨rest, hs, -⟩ := bind_eq_ok_iff.1 h
    rw [List.forall_mem_cons] at hc ⊢
    exact ⟨readable_of_compact node hn.1 hc.1 hr, readable_of_compacts nodes hn.2 hc.2 hs⟩

end

lemma rebuild_of_toHtml {node : Node} {html : String} (h : node.toHtml = .ok html) :
    node.rebuild rawBuilder = .ok ⟨html⟩ := by
  simp only [toHtml] at h
  cases hr : node.rebuild rawBuilder with
  | error fault => simp [hr, Except.map] at h
  | ok raw =>
    rw [hr] at h
    simp only [Except.map, Except.ok.injEq] at h
    simp [← h]

/-- The text of a compacted tree of proper names determines the tree. -/
theorem eq_of_toHtml {t u : Node} {html : String} (hnt : t.wellNamed) (hnu : u.wellNamed) (hct : t.compact = t)
    (hcu : u.compact = u) (ht : t.toHtml = .ok html) (hu : u.toHtml = .ok html) : t = u := by
  have hrt := rebuild_of_toHtml ht
  have hru := rebuild_of_toHtml hu
  have hend (node : Node) : EndsText node [] := fun _ _ => ⟨by simp [EndsEscaped], fun _ => rfl⟩
  have hchars : t.chars ++ [] = u.chars ++ [] := by rw [← toList_html t hrt, ← toList_html u hru]
  exact (chars_append_inj t u (readable_of_compact t hnt hct hrt) (readable_of_compact u hnu hcu hru)
    (hend t) (hend u) hchars).1

theorem eq_of_toHtml_joined :
    let attributes : Attributes := ⟨[("x:y", .text "\"<&"), ("hidden", .bare)], by decide⟩
    let rule : Node := .element "hr" ⟨[], by decide⟩ []
    let joined := (Node.element "a-b" attributes [.text "</a", .text "", .text "-b>", rule]).compact
    let tree : Node := .element "a-b" attributes [.text "</a-b>", rule]
    let html := "<a-b x:y=\"&quot;&lt;&amp;\" hidden>&lt;/a-b&gt;<hr></a-b>"
    joined.wellNamed ∧ tree.wellNamed ∧ joined.compact = joined ∧ tree.compact = tree ∧
      joined.toHtml = .ok html ∧ tree.toHtml = .ok html ∧ joined = tree := by
  intro attributes rule joined tree html
  have hj : joined.wellNamed := by decide +kernel
  have ht : tree.wellNamed := by decide +kernel
  have hcj : joined.compact = joined := compact_compact _
  have hct : tree.compact = tree := rfl
  have hhj : joined.toHtml = .ok html := by decide +kernel
  have hht : tree.toHtml = .ok html := by decide +kernel
  exact ⟨hj, ht, hcj, hct, hhj, hht, eq_of_toHtml hj ht hcj hct hhj hht⟩

end Node

end TemplateScript
