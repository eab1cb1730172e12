import TemplateScript.Evaluation.Evaluate
import TemplateScript.Proofs.Script.PrintedStatements

/-!
The branches of a conditional statement. A lone semicolon leaves nothing behind where it is read, so that the branches
stand where they were written unless the first one is a lone semicolon: then the second one takes its place, and is run
when the condition holds.
-/

namespace TemplateScript

open Lexeme TemplateScript.Parser

section Reading

variable {g : Grammar} {n : Nat} {cs rest : List Char} {test : Expr} {first second : Option Stmt}

def Parser.Grammar.ReadsBranch (g : Grammar) (cs : List Char) (test : Expr) (first second : Option Stmt)
    (rest : List Char) : Prop :=
  ∃ opening condition closing body after otherwise,
    keyword "if" cs = some opening ∧ symbol "(" opening = some condition ∧
    g.expression condition = some (.ok test, closing) ∧ symbol ")" closing = some body ∧
    g.statement body = some (first.map .ok, after) ∧ keyword "else" after = some otherwise ∧
    g.statement otherwise = some (second.map .ok, rest)

/-- The branches in the places where they are read: what was left behind comes first. -/
def placed : Option Stmt → Option Stmt → Option Stmt × Option Stmt
  | some first, second => (some first, second)
  | none, second => (second, none)

lemma placed_eq (h : first = none → second = none) : placed first second = (first, second) := by
  cases first with
  | none => rw [h rfl, placed]
  | some first => rfl

lemma branch_read (h : g.ReadsBranch cs test first second rest) :
    g.branch cs = some (.ok (.branch test ((placed first second).1.getD (.block [])) (placed first second).2), rest) := by
  obtain ⟨opening, condition, closing, body, after, otherwise, h1, h2, h3, h4, h5, h6, h7⟩ := h
  simp only [Grammar.branch, h1, h2, h3, h4, h5, h6, h7, Option.bind_eq_bind, Option.bind_some, Option.getD_some]
  cases first <;> cases second <;> rfl

lemma keyword_of_keyword {s w : String} (h : keyword s cs = some rest) (hne : s ≠ w) : keyword w cs = none := by
  rw [keyword, Option.bind_eq_bind] at h ⊢
  obtain ⟨⟨name, tail⟩, hname, hs⟩ := Option.bind_eq_some_iff.1 h
  obtain ⟨rfl, -⟩ : name = s ∧ _ := by simpa using hs
  simp [hname, hne]

lemma statement_read (h : (grammar n).ReadsBranch cs test first second rest) : (grammar (n + 1)).statement cs =
    some (some (.ok (.branch test ((placed first second).1.getD (.block [])) (placed first second).2)), rest) := by
  obtain ⟨opening, -, -, -, -, -, hif, -⟩ := id h
  change (grammar n).statementOf (n + 1) cs = _
  have hother {w : String} (hw : "if" ≠ w) : keyword w cs = none := keyword_of_keyword hif hw
  simp only [Grammar.statementOf, importStatement_eq_none (hother (by decide)),
    declaration_eq_none (hother (by decide)) (hother (by decide)), branch_read h]
  rfl

lemma many_of_statement {x : Option (Checked Stmt)} (hn : 2 ≤ n) (h : (grammar n).statement cs = some (x, rest))
    (hrest : skip rest = []) : Reader.many (grammar n).statement n cs = some ([x], rest) := by
  obtain ⟨n, rfl⟩ : ∃ k, n = k + 2 := ⟨n - 2, by omega⟩
  have hend : (grammar (n + 2)).statement rest = none := statement_eq_none (by simp [next?, hrest]) _
  simp only [Reader.many, h, hend]
  rfl

lemma parse_of_statement {source : String} {s : Stmt}
    (h : (grammar (depth source.toList)).statement source.toList = some (some (.ok s), rest)) (hrest : skip rest = []) :
    Program.parse source = .ok [s] := by
  have hmany := many_of_statement (by rw [depth]; omega) h hrest
  simp only [Program.parse, readAll, hmany, hrest, Option.map_some]
  rfl

end Reading

namespace Evaluation

variable {call : Call} {scope : Scope} {test : Expr}

def BranchRuns (call : Call) (scope : Scope) (s : Store) (result : EStateM.Result Halt Store Flow) : Option Stmt → Prop
  | some body => result = (do statement call (← Eval.newScope scope) body : Eval Flow) s
  | none => ∃ k, result = .ok .next { s with frames := s.frames ++ Array.replicate k [] }

def Chooses (call : Call) (scope : Scope) (test : Expr) (first second : Option Stmt) (chosen : Stmt) : Prop :=
  ∀ s, match expression call scope test s with
    | .ok v s' => BranchRuns call scope s' (statement call scope chosen s) (if v.isTruthy then first else second)
    | .error halt s' => statement call scope chosen s = .error halt s'

lemma branchRuns_body (body : Option Stmt) (s : Store) :
    BranchRuns call scope s ((do statement call (← Eval.newScope scope) (body.getD (.block [])) : Eval Flow) s) body := by
  cases body with
  | some body => rfl
  | none => exact ⟨2, rfl⟩

lemma branchRuns_otherwise (body : Option Stmt) (s : Store) : BranchRuns call scope s (otherwise call scope body s) body := by
  cases body with
  | some body =>
    rw [otherwise]
    rfl
  | none => exact ⟨0, by simp only [otherwise, Array.replicate_zero, Array.append_empty]; rfl⟩

lemma branch_chooses (call : Call) (scope : Scope) (test : Expr) (first second : Option Stmt) :
    Chooses call scope test first second (.branch test (first.getD (.block [])) second) := by
  intro s
  simp only [statement, Bind.bind, EStateM.bind]
  cases expression call scope test s with
  | error halt s' => rfl
  | ok v s' =>
    dsimp only
    cases v.isTruthy with
    | true => exact branchRuns_body first s'
    | false => exact branchRuns_otherwise second s'

end Evaluation

open Evaluation in
/-- How a conditional statement is read, by itself and as a whole program. The branches are kept apart if the first one
is not a lone semicolon or both are: the first one runs exactly if the condition holds. A second branch after a lone
semicolon takes the first place, so that it runs exactly if the condition holds. -/
theorem branches_placed {n : Nat} {cs rest : List Char} {test : Expr} {first second : Option Stmt}
    (h : (grammar n).ReadsBranch cs test first second rest) :
    ∃ consequent alternate,
      (grammar (n + 1)).statement cs = some (some (.ok (.branch test consequent alternate)), rest) ∧
      (∀ source : String, source.toList = cs → depth cs = n + 1 → skip rest = [] →
        Program.parse source = .ok [.branch test consequent alternate]) ∧
      ((first = none → second = none) → consequent = first.getD (.block []) ∧ alternate = second ∧
        ∀ call scope, Chooses call scope test first second (.branch test consequent alternate)) ∧
      ∀ body, first = none → second = some body → consequent = body ∧ alternate = none ∧
        ∀ call scope, Chooses call scope test (some body) none (.branch test consequent alternate) := by
  have hread := statement_read h
  refine ⟨_, _, hread, ?_, fun hkept => ?_, ?_⟩
  · rintro source rfl hdepth hrest
    rw [← hdepth] at hread
    exact parse_of_statement hread hrest
  · rw [placed_eq hkept]
    exact ⟨rfl, rfl, fun call scope => branch_chooses call scope test first second⟩
  · rintro body rfl rfl
    exact ⟨rfl, rfl, fun call scope => branch_chooses call scope test (some body) none⟩

theorem branches_placed_semicolon :
    let b := Stmt.expression (.identifier "b")
    (grammar 33).ReadsBranch "if (a) b; else ;".toList (.identifier "a") (some b) none [] ∧
      Program.parse "if (a) b; else ;" = .ok [.branch (.identifier "a") b none] ∧
      ∀ call scope, Evaluation.Chooses call scope (.identifier "a") (some b) none (.branch (.identifier "a") b none) := by
  intro b
  have hread : (grammar 33).ReadsBranch "if (a) b; else ;".toList (.identifier "a") (some b) none [] :=
    ⟨" (a) b; else ;".toList, "a) b; else ;".toList, ") b; else ;".toList, " b; else ;".toList, " else ;".toList, " ;".toList,
      rfl, rfl, rfl, rfl, rfl, rfl, rfl⟩
  obtain ⟨consequent, alternate, -, hparse, hkept, -⟩ := branches_placed hread
  obtain ⟨rfl, rfl, hchooses⟩ := hkept nofun
  exact ⟨hread, hparse _ rfl rfl rfl, hchooses⟩

/-- After a lone semicolon, the second branch is read as the first: it runs where the condition holds, and nothing runs
where it does not. -/
theorem branches_swapped :
    let a := Expr.identifier "a"
    let leave := Stmt.leave (some (.identifier "b"))
    let store (holds : Bool) : Store := { frames := #[[("a", .bool holds), ("b", .string "left")]] }
    (grammar 47).ReadsBranch "if (a) ; else return b;".toList a none (some leave) [] ∧
      Program.parse "if (a) ; else return b;" = .ok [.branch a leave none] ∧
      (∃ s, Evaluation.statement Evaluation.call [0] (.branch a leave none) (store true) = .ok (.leave (.string "left")) s) ∧
      ∃ s, Evaluation.statement Evaluation.call [0] (.branch a leave none) (store false) = .ok .next s := by
  intro a leave store
  have hread : (grammar 47).ReadsBranch "if (a) ; else return b;".toList a none (some leave) [] :=
    ⟨" (a) ; else return b;".toList, "a) ; else return b;".toList, ") ; else return b;".toList, " ; else return b;".toList,
      " else return b;".toList, " return b;".toList, rfl, rfl, rfl, rfl, rfl, rfl, rfl⟩
  exact ⟨hread, parse_of_statement (statement_read hread) rfl, ⟨_, rfl⟩, ⟨_, rfl⟩⟩

end TemplateScript
