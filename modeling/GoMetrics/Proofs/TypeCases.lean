import GoMetrics.Proofs.Alike.Tree
import GoMetrics.Proofs.Binding.Simulation
import GoMetrics.Proofs.Lexical.Visibility

/-!
Clauses of type switches. The types of a clause are its children in the slot for types. Go's grammar
puts the commas between them into the same slot, and a comma is no type: a clause with one type is
read as it stands, a clause with several is refused at its first comma.
-/

namespace GoMetrics

namespace Tree

/-- A comma, as a token. -/
def IsComma (t : Tree) : Prop :=
  t.kind = .other "," ∧ t.isNamed = false

/-- The second list is the first with a comma between each two neighbours. -/
inductive Separated : List Tree → List Tree → Prop
  | nil : Separated [] []
  | singleton (t : Tree) : Separated [t] [t]
  | cons (t : Tree) {comma u : Tree} {ts cs : List Tree} (isComma : comma.IsComma)
      (rest : Separated (u :: ts) cs) : Separated (t :: u :: ts) (t :: comma :: cs)

/-- The children in a slot, as trees. -/
def inSlot (t : Tree) (p : Slot) : List Tree :=
  t.children.filter fun c => c.slot == some p

theorem map_val_allAt (t : Tree) (p : Slot) : (t.allAt p).map (·.val) = t.inSlot p :=
  map_val_filter_kids (fun c => c.slot == some p) t

end Tree

namespace Draft

open GoMetrics.Tree Binding

variable (s : Source) (ls : List String)

/-- A type or an expression read and resolved where the names of `e` and the labels `ls` are in
force. -/
def exprIn (e : Env) (t : Tree) : Except Fault (Node Bool) :=
  (out false · e) <$> expr s ls (readers s t)

/-- A clause of a switch read and resolved. -/
def clauseIn (e : Env) (t : Tree) : Except Fault (Node Bool) :=
  (out false · e) <$> caseClause ls (readers s t)

/-- The statements of a clause. -/
def clauseStmts (t : Tree) : Except Fault (List (Node Role)) :=
  List.flatten <$> (afterColon t).2.mapM fun c => stmts s ls (readers s c.1)

theorem expr_of_isComma {c : Tree} (h : c.IsComma) :
    expr s ls (readers s c) =
      .error (.refused (.unsupportedExpression (.other ",")) (s.lineOf c)) := by
  unfold expr
  rw [h.1, refuse, h.1]

theorem caseExprs_typeCase {t : Tree} (hk : t.kind = .part .typeCase) :
    caseExprs ls (readers s t) =
      some <$> (t.inSlot .type).mapM fun c => expr s ls (readers s c) := by
  have hr : (readers s t).expr ls = (fun c => expr s ls (readers s c)) ∘ Subtype.val := by
    funext c
    exact readers_expr s t ls c
  unfold caseExprs
  rw [hk, ← map_val_allAt, List.mapM_map, ← hr]

theorem caseClause_eq {t : Tree} :
    caseClause ls (readers s t) = do
      let exprs ← caseExprs ls (readers s t)
      let body ← clauseStmts s ls t
      return .caseClause exprs body (afterColon t).1 := by
  have hb : ((afterColon t).2.mapM fun c => (readers s t).stmts ls c) =
      (afterColon t).2.mapM fun c => stmts s ls (readers s c.1) := by
    congr 1
    funext c
    exact readers_stmts s t ls c
  rw [caseClause, hb, clauseStmts]
  cases caseExprs ls (readers s t) with
  | error why => rfl
  | ok exprs => cases (afterColon t).2.mapM fun c => stmts s ls (readers s c.1) <;> rfl

/-- A clause of a type switch, with its types and its statements at hand. -/
theorem clauseIn_of_ok {t : Tree} {ns body : List (Node Role)} (hk : t.kind = .part .typeCase)
    (hx : (t.inSlot .type).mapM (fun c => expr s ls (readers s c)) = .ok ns)
    (hb : clauseStmts s ls t = .ok body) (e : Env) :
    clauseIn s ls e t =
      .ok (.caseClause (some (outAll ns e.push)) (outAll body (afterAll ns e.push))
        (afterColon t).1) := by
  rw [clauseIn, caseClause_eq, caseExprs_typeCase s ls hk, hx, hb]
  rfl

theorem clauseIn_of_error {t : Tree} {why : Fault} (hk : t.kind = .part .typeCase)
    (hx : (t.inSlot .type).mapM (fun c => expr s ls (readers s c)) = .error why) (e : Env) :
    clauseIn s ls e t = .error why := by
  rw [clauseIn, caseClause_eq, caseExprs_typeCase s ls hk, hx]
  rfl

/-- What can be read as an expression is no comma. -/
theorem kind_ne_of_expr {t : Tree} {n : Node Role} (h : expr s ls (readers s t) = .ok n) :
    t.kind ≠ .other "," := by
  obtain ⟨k, hk⟩ := kind_of_expr h
  rw [hk]
  nofun

/-- A clause with no more than one type is read: its expressions are its types. A clause with
several types, each of which can be read, is refused all the same, as the comma behind its first
type is taken for a type. -/
theorem clauseIn_of_separated {e : Env} {t : Tree} {types : List Tree} {xs : List (Node Bool)}
    {body : List (Node Role)} (hk : t.kind = .part .typeCase)
    (hs : Separated types (t.inSlot .type)) (hx : types.mapM (exprIn s ls e.push) = .ok xs)
    (hb : clauseStmts s ls t = .ok body) :
    if types.length ≤ 1 then
      ∃ body', clauseIn s ls e t = .ok (.caseClause (some xs) body' (afterColon t).1)
    else
      ∃ comma, (t.inSlot .type).find? (·.kind == .other ",") = some comma ∧
        clauseIn s ls e t =
          .error (.refused (.unsupportedExpression (.other ",")) (s.lineOf comma)) := by
  generalize hc : t.inSlot .type = cs at hs
  rw [Except.mapM_eq_ok] at hx
  cases hs with
  | nil =>
      cases hx
      have hns : (t.inSlot .type).mapM (fun c => expr s ls (readers s c)) = .ok [] := by
        rw [hc]
        rfl
      exact ⟨_, clauseIn_of_ok s ls hk hns hb e⟩
  | singleton u =>
      obtain ⟨x, _, hu, hn, rfl⟩ := List.forall₂_cons_left_iff.1 hx
      cases hn
      obtain ⟨n, hn, rfl⟩ := Except.map_eq_ok.1 hu
      have hns : (t.inSlot .type).mapM (fun c => expr s ls (readers s c)) = .ok [n] := by
        rw [hc, List.mapM_cons, hn]
        rfl
      exact ⟨_, clauseIn_of_ok s ls hk hns hb e⟩
  | @cons u comma _ _ cs hcomma _ =>
      obtain ⟨x, _, hu, -, rfl⟩ := List.forall₂_cons_left_iff.1 hx
      obtain ⟨n, hn, rfl⟩ := Except.map_eq_ok.1 hu
      refine ⟨comma, ?_, clauseIn_of_error s ls hk ?_ e⟩
      · simp [hcomma.1, kind_ne_of_expr s ls hn]
      · rw [hc, List.mapM_cons, hn, List.mapM_cons, expr_of_isComma s ls hcomma]
        rfl

/-! A clause with two types -/

open Lexical

/-- A token, as parsers hand it over. -/
def token (text : String) (slot : Option Slot) (start stop : Nat) : Tree :=
  .node ⟨.other text, start, stop, false, false, false, slot⟩ []

/-- The name of a type in a clause. -/
def typeName (start stop : Nat) : Tree :=
  written (.expr .typeIdentifier) (some .type) start stop []

/-- The clause of the file below. -/
def pairClause : Tree :=
  written (.part .typeCase) none 29 46
    [typeName 34 37, token "," (some .type) 37 38, typeName 39 45, token ":" none 45 46]

/-- The file of `func f() {
switch x.(type) { case int, string: } }`. -/
def pairFile : Tree :=
  written (.other "source_file") none 0 50
    [written .functionDeclaration none 0 50
      [letter (some .name) 5, written (.part .parameterList) (some .parameters) 6 8 [],
        written (.stmt .block) (some .body) 9 50
          [written (.stmt .typeSwitchStatement) none 11 48
            [letter (some .value) 18, pairClause]]]]

def pairSource : Source :=
  ⟨"p.go", "func f() \x7b\nswitch x.(type) \x7b case int, string: \x7d \x7d".toUTF8.toList⟩

theorem separated_pairClause :
    Separated [typeName 34 37, typeName 39 45] (pairClause.inSlot .type) :=
  .cons _ ⟨rfl, rfl⟩ (.singleton _)

/-- The name of a type is looked up among the names in force. -/
theorem exprIn_typeName (e : Env) (start stop : Nat) :
    exprIn s ls e (typeName start stop) =
      .ok (.ident (s.text start stop) (e.scope.lookup (s.text start stop))) :=
  rfl

theorem exprIn_pairClause :
    [typeName 34 37, typeName 39 45].mapM (exprIn pairSource [] (Env.ofFile []).push) =
      .ok [.ident "int" false, .ident "string" false] := by
  have hint : pairSource.text 34 37 = "int" := by decide +kernel
  have hstring : pairSource.text 39 45 = "string" := by decide +kernel
  rw [List.mapM_cons, List.mapM_cons, List.mapM_nil, exprIn_typeName, exprIn_typeName, hint,
    hstring]
  rfl

theorem clauseStmts_pairClause : clauseStmts pairSource [] pairClause = .ok [] := by
  with_unfolding_all rfl

/-- Both types and the statements of the clause can be read, the clause cannot, and neither can the
file. -/
theorem pairClause_refused :
    pairClause.kind = .part .typeCase ∧
      Separated [typeName 34 37, typeName 39 45] (pairClause.inSlot .type) ∧
      [typeName 34 37, typeName 39 45].mapM (exprIn pairSource [] (Env.ofFile []).push) =
        .ok [.ident "int" false, .ident "string" false] ∧
      clauseStmts pairSource [] pairClause = .ok [] ∧
      clauseIn pairSource [] (.ofFile []) pairClause =
        .error (.refused (.unsupportedExpression (.other ",")) 2) ∧
      GoFile.declarations pairSource pairFile =
        .error (.refused (.unsupportedExpression (.other ",")) 2) := by
  refine ⟨rfl, separated_pairClause, exprIn_pairClause, clauseStmts_pairClause, ?_, ?_⟩
  · with_unfolding_all rfl
  · with_unfolding_all rfl

theorem clauseIn_of_separated_pairClause :
    ∃ comma, (pairClause.inSlot .type).find? (·.kind == .other ",") = some comma ∧
      clauseIn pairSource [] (.ofFile []) pairClause =
        .error (.refused (.unsupportedExpression (.other ",")) (pairSource.lineOf comma)) :=
  clauseIn_of_separated pairSource [] (t := pairClause) rfl separated_pairClause
    exprIn_pairClause clauseStmts_pairClause

end Draft
end GoMetrics
