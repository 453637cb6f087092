import GoMetrics.Proofs.Signatures

/-!
Type parameters of functions and methods. A function declares them in a list of its own, and then
they are found in all of it. The receiver of a method names them in the arguments of its type, and
there they are looked up like the arguments of any generic type: nothing declares them for the
method.
-/

namespace GoMetrics

open Draft Binding Lexical Node

/-! Receivers with a generic type -/

namespace Tree

/-- A type argument that is the plain name `x`. -/
inductive IsArgument (s : Source) (x : String) : Tree → Prop
  | name {t : Tree} (kind : t.kind = .expr .typeIdentifier) (text : s.textOf t = x) :
      IsArgument s x t
  | elem {t : Tree} {c : Below t} (kind : t.kind = .expr .typeElem) (parts : t.parts = [c])
      (only : IsArgument s x c.1) : IsArgument s x t

/-- A generic type with the arguments `xs`, possibly under pointers and parentheses. -/
inductive IsGeneric (s : Source) (xs : List String) : Tree → Prop
  | generic {t : Tree} {list : Below t} (kind : t.kind = .expr .genericType)
      (slot : t.at? .typeArguments = some list)
      (arguments : List.Forall₂ (fun x c => IsArgument s x c.1) xs list.1.parts) :
      IsGeneric s xs t
  | under {t : Tree} {c : Below t}
      (kind : t.kind = .expr .pointerType ∨ t.kind = .expr .parenthesizedType)
      (head : t.parts.head? = some c) (inner : IsGeneric s xs c.1) : IsGeneric s xs t

/-- A method whose receiver has a generic type with the arguments `xs`. -/
structure HasReceiver (s : Source) (xs : List String) (t : Tree) : Prop where
  kind : t.kind = .methodDeclaration
  receiver : ∃ list, t.at? .receiver = some list ∧ ∃ param ∈ list.1.parts, ∃ type,
    param.1.at? .type = some type ∧ IsGeneric s xs type.1

end Tree

variable {s : Source} {t : Tree} {x : String} {xs : List String} {e : Env} {n : Node Role}

theorem mem_sites_of_visit {m : Mode} {v : Context} {c : Visit t} {site : Site}
    (hc : c ∈ visits s m t v) (hs : site ∈ Lexical.sites s c.mode c.part.1 c.seen) :
    site ∈ Lexical.sites s m t v := by
  rw [Lexical.sites_eq]
  exact List.mem_append_right _ (List.mem_flatMap.2 ⟨c, hc, hs⟩)

theorem use_of_isArgument (h : t.IsArgument s x) (v : Context) :
    Site.use x v.toVisible ∈ Lexical.sites s .expr t v := by
  induction h generalizing v with
  | @name t kind text =>
      rw [Lexical.sites_eq, leaf, kind, ← text]
      exact List.mem_append_left _ (List.mem_singleton_self _)
  | @elem t c kind parts _ ih =>
      refine mem_sites_of_visit (c := ⟨.expr, c, v⟩) ?_ (ih v)
      simp [visits, Mode.on, Mode.atExpr, exprVisits, kind, parts, each]

theorem use_of_isGeneric (h : t.IsGeneric s xs) (hx : x ∈ xs) (v : Context) :
    Site.use x v.toVisible ∈ Lexical.sites s .expr t v := by
  induction h generalizing v with
  | @generic t list kind slot arguments =>
      obtain ⟨c, hc, ha⟩ := Except.exists_of_forall₂ arguments hx
      have hl : Site.use x v.toVisible ∈ Lexical.sites s .operands list.1 v :=
        mem_sites_of_visit (c := ⟨.expr, c, v⟩) (List.mem_map_of_mem hc) (use_of_isArgument ha v)
      refine mem_sites_of_visit (c := ⟨.operands, list, v⟩) ?_ hl
      simp [visits, Mode.on, Mode.atExpr, exprVisits, kind, slot, one, each]
  | @under t c kind head _ ih =>
      refine mem_sites_of_visit (c := ⟨.expr, c, v⟩) ?_ (ih v)
      obtain kind | kind := kind <;>
        simp [visits, Mode.on, Mode.atExpr, exprVisits, kind, head, one, each]

theorem exists_mem_inTurn {m : Mode} {cs : List (Tree.Below t)} {c : Tree.Below t} (hc : c ∈ cs)
    (v : Context) : ∃ w, (⟨m, c, w⟩ : Visit t) ∈ Lexical.inTurn s m cs v := by
  induction cs generalizing v with
  | nil => cases hc
  | cons d cs ih =>
      obtain rfl | hc := List.mem_cons.1 hc
      · exact ⟨v, List.mem_cons_self⟩
      · obtain ⟨w, hw⟩ := ih hc (v.declare (declared s m d.1))
        exact ⟨w, List.mem_cons_of_mem _ hw⟩

/-- In a list of parameters each type is read. -/
theorem use_of_param {param : Tree.Below t} {type : Tree.Below param.1} (hp : param ∈ t.parts)
    (ht : param.1.at? .type = some type) (hg : type.1.IsGeneric s xs) (hx : x ∈ xs) (v : Context) :
    ∃ seen, Site.use x seen ∈ Lexical.sites s .params t v := by
  obtain ⟨w, hw⟩ := exists_mem_inTurn (s := s) (m := .param) hp v
  have hu : Site.use x w.toVisible ∈ Lexical.sites s .param param.1 w := by
    refine mem_sites_of_visit (c := ⟨.expr, type, w⟩) ?_ (use_of_isGeneric hg hx w)
    simp [visits, Mode.on, ht, one, each]
  exact ⟨_, mem_sites_of_visit hw hu⟩

/-! The parts of a function -/

namespace Node

variable {ι : Type}

/-- The receiver of a method. -/
def receiver : Node ι → List (Node ι)
  | .funcDecl _ _ _ _ _ _ _ recv => recv.getD []
  | _ => []

/-- The signature and the body of a function. -/
def inside : Node ι → List (Node ι)
  | .funcDecl _ _ _ type _ _ body _ => type :: body.toList
  | _ => []

/-- The names that the signature and the body of a function take from around them. -/
def freeInside : Node Role → List (String × Role)
  | .funcDecl _ _ _ type _ _ body _ =>
      type.free true ++ (body.toList.flatMap (free false)).filter fun p =>
        p.1 = blank ∨ p.1 ∉ type.binds false true
  | _ => []

theorem role_of_mem_freeInside {n : Node Role} {p : String × Role} (h : p ∈ n.freeInside) :
    p.2 = .use ∨ p.2 = .key := by
  cases n with
  | funcDecl _ _ _ type _ _ body _ =>
      obtain h | h := List.mem_append.1 h
      · exact role_of_mem_free h
      · obtain ⟨b, -, hb⟩ := List.mem_flatMap.1 (List.mem_of_mem_filter h)
        exact role_of_mem_free hb
  | _ => cases h

end Node

/-- A function as it is read. -/
theorem funcDecl_parts (h : Draft.funcDecl s (readers s t) = .ok n) :
    ∃ name role params results pos stop body recv,
      n = .funcDecl name role (typeParams s t) (.funcType params results true) pos stop body recv ∧
      (∃ ls, Draft.receiver s ls (readers s t) = .ok recv) ∧
      ∀ b ∈ body, b.isConstruct = true := by
  obtain ⟨_, -, ls, -, recv, hr, type, ht, body, hb, rfl⟩ := Draft.funcDecl_eq_ok.1 h
  obtain ⟨ps, rs, rfl, -⟩ := isField_of_signature ht
  refine ⟨_, _, ps, rs, _, _, body, recv, rfl, ⟨ls, hr⟩, ?_⟩
  rintro b rfl
  obtain ⟨c, -, hc⟩ := Except.exists_of_forall₂ hb.flip (List.mem_singleton_self b)
  obtain ⟨_, -, rfl⟩ := Draft.block_eq_ok.1 hc
  rfl

/-- Behind the receiver and the type parameters of a function, their names are found in addition to
what is found around it. -/
theorem resolves_behind {sg : Signature Role} (he : e.scope.lookup blank = false)
    (hr : ∀ f ∈ sg.receiver, f.IsField) (x : String) {role : Role}
    (hu : role = .use ∨ role = .key) :
    (sg.start e).resolves x role = true ↔
      (x ≠ blank ∧ (x ∈ sg.receiver.flatMap fieldNames ∨ x ∈ sg.typeParams)) ∨
        e.resolves x role = true := by
  have hs := Signature.resolves_start he hr [] x hu
  have ha : sg.around e = e.push.declares sg.typeParams := Env.declareAll_eq_declares rfl _
  rw [Env.declares_nil, List.append_nil] at hs
  rw [hs, (Signature.isInner_around he).resolves_declares _ _ hu, ha,
    (Env.isInner_push he).resolves_declares _ _ hu, Env.resolves_push]
  tauto

/-- In the body of a function a name is found exactly if it is found where the signature stands,
unless the signature declares it. -/
theorem isFound_body {body : Option (Node Role)} (h : e.IsInner) (xs : List String)
    (hb : ∀ b ∈ body, b.isConstruct = true) (x : String) :
    IsFound x (answersAll body.toList (outAll body.toList (e.declares xs))) ↔
      ∀ p ∈ (body.toList.flatMap (free false)).filter fun p => p.1 = blank ∨ p.1 ∉ xs,
        p.1 = x → e.resolves p.1 p.2 = true := by
  cases body with
  | none => simp [answersAll, IsFound]
  | some b =>
      have ho : answersAll [b] (outAll [b] (e.declares xs)) =
          answers b (out false b (e.declares xs)) :=
        List.append_nil _
      rw [Option.toList_some, ho, isFound_inner (h.declares xs) false (hb b rfl),
        List.flatMap_singleton]
      simp only [List.mem_filter, decide_eq_true_eq, and_imp]
      refine forall₂_congr fun p hp => ?_
      rw [h.resolves_declares _ _ (role_of_mem_free hp)]
      tauto

/-- The signature and the body of a function are read behind its receiver and its type
parameters. -/
theorem isFound_inside (h : Draft.funcDecl s (readers s t) = .ok n)
    (he : e.scope.lookup blank = false) (x : String) :
    IsFound x (answersAll n.inside (out false n e).inside) ↔
      ∀ p ∈ n.freeInside, p.1 = x →
        (x ≠ blank ∧ (x ∈ n.receiver.flatMap fieldNames ∨ x ∈ typeParams s t)) ∨
          e.resolves p.1 p.2 = true := by
  obtain ⟨name, role, params, results, pos, stop, body, recv, rfl, ⟨ls, hr⟩, hb⟩ :=
    funcDecl_parts h
  let type : Node Role := .funcType params results true
  let sg : Signature Role := ⟨recv.getD [], typeParams s t, params ++ results⟩
  have hr : ∀ f ∈ sg.receiver, f.IsField := isField_of_receiver hr
  have hs : (sg.start e).IsInner := Signature.isInner_start he hr
  have ho : (out false (.funcDecl name role (typeParams s t) type pos stop body recv) e).inside =
      out true type (sg.start e) ::
        outAll body.toList ((sg.start e).declares (type.binds false true)) := by
    rw [← after_inner hs]
    cases recv <;> cases body <;> rfl
  rw [ho]
  change IsFound x (answers type (out true type (sg.start e)) ++ answersAll body.toList _) ↔ _
  rw [isFound_append, isFound_inner hs true rfl, isFound_body hs _ hb, ← List.forall_mem_append]
  refine forall₂_congr fun p hp => imp_congr_right fun hx => ?_
  have hu := role_of_mem_freeInside (n := .funcDecl name role [] type pos stop body recv) hp
  subst hx
  exact resolves_behind he hr p.1 hu

/-- The names in the type arguments of a receiver are looked up where it stands. -/
theorem use_in_receiver (ht : t.HasReceiver s xs) (h : Draft.funcDecl s (readers s t) = .ok n)
    (he : e.scope.lookup blank = false) (hx : x ∈ xs) :
    ∃ b, ⟨x, .use, b⟩ ∈ answersAll n.receiver (out false n e).receiver := by
  obtain ⟨list, hl, param, hp, type, htype, hg⟩ := ht.receiver
  obtain ⟨name, role, params, results, pos, stop, body, recv, rfl, ⟨ls, hr⟩, -⟩ :=
    funcDecl_parts h
  obtain ⟨file, v, hs⟩ := Env.exists_shows (Env.isInner_push he).noBlank
  have hv : v.top = false := hs.isRoot.symm
  have hc : ∀ f ∈ recv.getD [], f.isConstruct = true := by
    intro f hf
    obtain ⟨_, _, rfl, -⟩ := isField_of_receiver hr f hf
    rfl
  have hsites := (gives_receiver hr).sites ⟨v, ls⟩ rfl
  obtain ⟨seen, hu⟩ := use_of_param hp htype hg hx ⟨v, ls⟩
  have hm : Site.use x seen ∈ sitesAll (recv.getD []) v := by
    rw [hsites, if_pos ht.kind, hl]
    exact List.mem_flatMap.2 ⟨⟨.params, list, ⟨v, ls⟩⟩, List.mem_singleton_self _, hu⟩
  have ho : (out false (.funcDecl name role (typeParams s t) (.funcType params results true) pos
      stop body recv) e).receiver = outAll (recv.getD []) e.push := by
    cases recv <;> rfl
  refine ⟨decide (x ≠ blank ∧ (x ∈ file ∨ x ∈ seen.locals)), ?_⟩
  rw [ho]
  change _ ∈ answersAll (recv.getD []) _
  rw [answersAll_out hs (by simp [hv]) hc]
  exact List.mem_filterMap.2 ⟨_, hm, rfl⟩

/-- The type parameters that a function lists are found wherever they are looked up in its signature
and its body. The names in the type arguments of a receiver are looked up themselves, and are found
in the method exactly if each of them that its signature and its body take from around them is found
around the method, or is the name of a receiver. -/
theorem type_parameters_found (h : Draft.funcDecl s (readers s t) = .ok n)
    (he : e.scope.lookup blank = false) :
    (∀ x ∈ typeParams s t, x ≠ blank → IsFound x (answersAll n.inside (out false n e).inside)) ∧
      ∀ xs, t.HasReceiver s xs → ∀ x ∈ xs, x ≠ blank →
        (∃ b, ⟨x, .use, b⟩ ∈ answersAll n.receiver (out false n e).receiver) ∧
        (IsFound x (answersAll n.inside (out false n e).inside) ↔
          ∀ p ∈ n.freeInside, p.1 = x →
            x ∈ n.receiver.flatMap fieldNames ∨ x ∈ typeParams s t ∨
              e.resolves p.1 p.2 = true) := by
  refine ⟨fun x hx hne => ?_, fun xs ht x hx hne => ⟨use_in_receiver ht h he hx, ?_⟩⟩
  · rw [isFound_inside h he]
    exact fun p _ _ => .inl ⟨hne, .inr hx⟩
  · rw [isFound_inside h he]
    simp only [hne, ne_eq, not_false_eq_true, true_and, or_assoc]

/-! A method of a generic type -/

/-- The name of a type, of one letter. -/
def typeLetter (slot : Option Slot) (start : Nat) : Tree :=
  written (.expr .typeIdentifier) slot start (start + 1) []

/-- The type `*Stack[T]` of the receiver below. -/
def stackType : Tree :=
  written (.expr .pointerType) (some .type) 8 17
    [written (.expr .genericType) none 9 17
      [written (.expr .typeIdentifier) (some .type) 9 14 [],
        written (.other "type_arguments") (some .typeArguments) 14 17
          [written (.expr .typeElem) none 15 16 [typeLetter none 15]]]]

/-- The method `func (s *Stack[T]) Pop(y T) T { return T(y) }`. -/
def popMethod : Tree :=
  written .methodDeclaration none 0 45
    [written (.part .parameterList) (some .receiver) 5 18 [paramTree 6 7 17 stackType],
      written (.expr .fieldIdentifier) (some .name) 19 22 [],
      written (.part .parameterList) (some .parameters) 22 27
        [paramTree 23 24 26 (typeLetter (some .type) 25)],
      typeLetter (some .result) 28,
      written (.stmt .block) (some .body) 30 45
        [written (.stmt .returnStatement) none 32 43
          [written (.part .expressionList) none 39 43
            [written (.expr .callExpression) none 39 43
              [letter (some .function) 39,
                written (.other "argument_list") (some .arguments) 40 43 [letter none 41]]]]]]

def popSource : Source :=
  ⟨"p.go", "func (s *Stack[T]) Pop(y T) T \x7b return T(y) \x7d".toUTF8.toList⟩

theorem hasReceiver_popMethod : popMethod.HasReceiver popSource ["T"] where
  kind := rfl
  receiver := ⟨_, rfl, _, List.mem_of_head? rfl, _, rfl,
    .under (.inl rfl) rfl
      (.generic rfl rfl (.cons (.elem rfl rfl (.name rfl (by decide +kernel))) .nil))⟩

/-- The type parameter of the method is unresolved in its parameter, in its result and in its
body. -/
theorem receiver_parameter_not_found :
    popMethod.HasReceiver popSource ["T"] ∧
      ∃ n, Draft.funcDecl popSource (readers popSource popMethod) = .ok n ∧
        (answersAll n.inside (out false n (.ofFile [])).inside).filter (·.role == .use) =
          [⟨"T", .use, false⟩, ⟨"T", .use, false⟩, ⟨"T", .use, false⟩, ⟨"y", .use, true⟩] := by
  obtain ⟨n, hn⟩ := Except.exists_eq_ok
    (x := Draft.funcDecl popSource (readers popSource popMethod)) (by decide +kernel)
  have ha : (Draft.funcDecl popSource (readers popSource popMethod)).toOption.map (fun n =>
      (answersAll n.inside (out false n (.ofFile [])).inside).filter (·.role == .use)) =
      some [⟨"T", .use, false⟩, ⟨"T", .use, false⟩, ⟨"T", .use, false⟩, ⟨"y", .use, true⟩] := by
    decide +kernel
  rw [hn] at ha
  exact ⟨hasReceiver_popMethod, n, hn, Option.some.inj ha⟩

theorem type_parameters_found_popMethod :
    ∃ n, Draft.funcDecl popSource (readers popSource popMethod) = .ok n ∧
      n.freeInside = [("T", .use), ("T", .use), ("T", .use)] ∧
      (∃ b, ⟨"T", .use, b⟩ ∈ answersAll n.receiver (out false n (.ofFile [])).receiver) ∧
      ¬ IsFound "T" (answersAll n.inside (out false n (.ofFile [])).inside) := by
  obtain ⟨n, hn⟩ := Except.exists_eq_ok
    (x := Draft.funcDecl popSource (readers popSource popMethod)) (by decide +kernel)
  have hf : (Draft.funcDecl popSource (readers popSource popMethod)).toOption.map (fun n =>
      (n.freeInside, n.receiver.flatMap fieldNames)) =
      some ([("T", .use), ("T", .use), ("T", .use)], ["s"]) := by
    decide +kernel
  rw [hn] at hf
  obtain ⟨hfree, hrecv⟩ := Prod.mk.inj (Option.some.inj hf)
  obtain ⟨hu, hiff⟩ := (type_parameters_found hn (e := .ofFile []) (by decide +kernel)).2 ["T"]
    hasReceiver_popMethod "T" (List.mem_singleton_self _) (by decide)
  have hps : typeParams popSource popMethod = [] := by decide +kernel
  rw [hfree, hrecv, hps] at hiff
  refine ⟨n, hn, hfree, hu, fun hfound => ?_⟩
  exact absurd (hiff.1 hfound) (by decide +kernel)

end GoMetrics
