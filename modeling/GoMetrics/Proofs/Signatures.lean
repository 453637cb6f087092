import GoMetrics.Proofs.Alike.File
import GoMetrics.Proofs.Binding.Answers

/-!
Names of parameters and the types beside them. The fields of a signature are read in turn, each with
the names of the receiver and of the fields before it in force. So a type in a signature is resolved
as it would be around the signature exactly if it takes none of these names from there that is not
in force around the signature already.
-/

namespace GoMetrics

open Draft Binding Lexical Node

/-- What stands before the body of a function: parameters and results are its fields. -/
structure Signature (ι : Type) where
  receiver : List (Node ι)
  typeParams : List String
  fields : List (Node ι)

namespace Node

variable {ι : Type}

/-- The signature of a function or a method, a function literal, a function type, or a method of an
interface. -/
def signature? : Node ι → Option (Signature ι)
  | .funcDecl _ _ tps (.funcType params results _) _ _ _ recv =>
      some ⟨recv.getD [], tps, params ++ results⟩
  | .funcLit (.funcType params results _) _ | .field _ (some (.funcType params results _))
  | .funcType params results _ => some ⟨[], [], params ++ results⟩
  | _ => none

/-- The names of a field. -/
def fieldNames : Node ι → List String
  | .field names _ => names.filterMap name?
  | _ => []

def fieldType? : Node ι → Option (Node ι)
  | .field _ type => type
  | _ => none

/-- A field of a signature as it is read: only its names are declared. -/
def IsField (f : Node Role) : Prop :=
  ∃ xs type, f = .field (bindings xs) (some type) ∧ type.isConstruct = true ∧
    ∀ top, type.binds top false = []

end Node

namespace Signature

/-- The type of the field at `i`. -/
def type? {ι : Type} (sg : Signature ι) (i : Nat) : Option (Node ι) :=
  sg.fields[i]?.bind fieldType?

/-- Around a signature, with its type parameters in force. -/
def around (sg : Signature Role) (e : Env) : Env :=
  e.push.declareAll sg.typeParams

/-- The names of the receiver and of the fields before the one at `i`. -/
def before (sg : Signature Role) (i : Nat) : List String :=
  (sg.receiver ++ sg.fields.take i).flatMap fieldNames

/-- Where the first field of a signature is read. -/
def start (sg : Signature Role) (e : Env) : Env :=
  (afterAll sg.receiver e.push).declareAll sg.typeParams

end Signature

/-- Constructs with a signature, read from a tree. -/
inductive Draft.Signed (s : Source) (ls : List String) (t : Tree) (n : Node Role) : Prop
  | function (kind : t.kind = .functionDeclaration ∨ t.kind = .methodDeclaration)
      (read : funcDecl s (readers s t) = .ok n)
  | type (kind : t.kind = .expr .funcLiteral ∨ t.kind = .expr .functionType)
      (read : expr s ls (readers s t) = .ok n)
  | method (kind : t.kind = .part .methodElem ∨ t.kind = .part .methodSpec)
      (read : Draft.method s ls (readers s t) = .ok n)

variable {s : Source} {ls : List String} {t : Tree} {n : Node Role} {sg : Signature Role} {e : Env}

/-! Fields as they are read -/

theorem isConstruct_of_expr (h : expr s ls (readers s t) = .ok n) : n.isConstruct = true := by
  obtain ⟨_, _, rfl, hc⟩ :=
    ((twin (Source.Within.refl s) (Tree.Alike.refl t)).exprOf ls).of_ok h
  cases hc with
  | of construct _ => exact construct

theorem binds_of_expr (h : expr s ls (readers s t) = .ok n) (top : Bool) :
    n.binds top false = [] := by
  have hb := ((sound s t).expr h).binds top
  rwa [List.flatMap_singleton, declared_of_isQuiet rfl] at hb

theorem isField_of_expr (h : expr s ls (readers s t) = .ok n) :
    (Node.field [] (some n)).IsField :=
  ⟨[], n, rfl, isConstruct_of_expr h, binds_of_expr h⟩

theorem isField_of_param (h : param s ls (readers s t) = .ok n) : n.IsField := by
  obtain ⟨x, hx, rfl⟩ := param_eq_ok.1 h
  obtain ⟨c, -, hx⟩ := Readers.expr_iff.2 hx
  rw [readers_expr] at hx
  refine ⟨names s t, _, rfl, ?_⟩
  split
  · refine ⟨rfl, fun top => ?_⟩
    rw [binds_of_isPlain _ _ rfl]
    simp [places, binds_of_expr hx]
  · exact ⟨isConstruct_of_expr hx, binds_of_expr hx⟩

theorem isField_of_params {ns : List (Node Role)} (h : params s ls (readers s t) = .ok ns) :
    ∀ f ∈ ns, f.IsField := by
  intro f hf
  obtain ⟨c, -, hc⟩ := Except.exists_of_forall₂ (params_eq_ok.1 h).flip hf
  exact isField_of_param hc

theorem isField_of_results {ns : List (Node Role)} (h : results s ls (readers s t) = .ok ns) :
    ∀ f ∈ ns, f.IsField := by
  obtain ⟨-, rfl⟩ | ⟨c, -, ⟨-, hps⟩ | ⟨-, x, hx, rfl⟩⟩ := results_eq_ok.1 h
  · exact List.forall_mem_nil _
  · exact isField_of_params hps
  · rw [readers_expr] at hx
    simpa using isField_of_expr hx

theorem isField_of_signature {keyword : Bool}
    (h : Draft.signature s ls (readers s t) keyword = .ok n) :
    ∃ ps rs, n = .funcType ps rs keyword ∧ ∀ f ∈ ps ++ rs, f.IsField := by
  obtain ⟨ps, hps, rs, hrs, rfl⟩ := signature_eq_ok.1 h
  have hp : ∀ f ∈ ps, f.IsField := by
    obtain ⟨-, rfl⟩ | ⟨c, -, hps⟩ := hps
    · exact List.forall_mem_nil _
    · exact isField_of_params hps
  exact ⟨ps, rs, rfl, List.forall_mem_append.2 ⟨hp, isField_of_results hrs⟩⟩

theorem isField_of_receiver {recv : Option (List (Node Role))}
    (h : receiver s ls (readers s t) = .ok recv) : ∀ f ∈ recv.getD [], f.IsField := by
  obtain ⟨-, ⟨-, rfl⟩ | ⟨c, -, ps, hps, rfl⟩⟩ | ⟨-, rfl⟩ := receiver_eq_ok.1 h
  · exact List.forall_mem_nil _
  · exact isField_of_params hps
  · exact List.forall_mem_nil _

/-- Every construct with a signature has fields as they are read. -/
theorem Draft.Signed.exists_signature (h : Signed s ls t n) :
    ∃ sg, n.signature? = some sg ∧ (∀ f ∈ sg.receiver, f.IsField) ∧
      ∀ f ∈ sg.fields, f.IsField := by
  cases h with
  | function _ read =>
      obtain ⟨_, -, _, -, recv, hr, type, ht, _, -, rfl⟩ := funcDecl_eq_ok.1 read
      obtain ⟨ps, rs, rfl, hf⟩ := isField_of_signature ht
      exact ⟨_, rfl, isField_of_receiver hr, hf⟩
  | type kind read =>
      obtain kind | kind := kind
      · have hl : funcLit s (readers s t) = .ok n := by rwa [expr, kind] at read
        obtain ⟨_, -, type, ht, _, -, _, -, rfl⟩ := funcLit_eq_ok.1 hl
        obtain ⟨ps, rs, rfl, hf⟩ := isField_of_signature ht
        exact ⟨_, rfl, List.forall_mem_nil _, hf⟩
      · have ht : signature s ls (readers s t) true = .ok n := by rwa [expr, kind] at read
        obtain ⟨ps, rs, rfl, hf⟩ := isField_of_signature ht
        exact ⟨_, rfl, List.forall_mem_nil _, hf⟩
  | method _ read =>
      obtain ⟨_, -, type, ht, rfl⟩ := method_eq_ok.1 read
      obtain ⟨ps, rs, rfl, hf⟩ := isField_of_signature ht
      exact ⟨_, rfl, List.forall_mem_nil _, hf⟩

/-! Fields in turn -/

theorem Node.IsField.binds {f : Node Role} (h : f.IsField) :
    f.binds false false = f.fieldNames := by
  obtain ⟨xs, type, rfl, -, hb⟩ := h
  rw [binds_field, hb]
  simp [fieldNames, bindings, Node.binds, List.filterMap_map, name?, Function.comp_def,
    List.flatMap_map]

/-- Fields that are read in turn leave their names in force. -/
theorem afterAll_fields {fs : List (Node Role)} (he : e.IsInner) (h : ∀ f ∈ fs, f.IsField) :
    afterAll fs e = e.declares (fs.flatMap fieldNames) := by
  rw [afterAll_inner he, List.flatMap_congr fun f hf => (h f hf).binds]

theorem getElem?_outAll (ns : List (Node Role)) (e : Env) (i : Nat) :
    (outAll ns e)[i]? = ns[i]?.map (out false · (afterAll (ns.take i) e)) := by
  induction ns generalizing e i with
  | nil => rfl
  | cons n ns ih =>
      cases i with
      | zero => rfl
      | succ i => simpa using ih (after false n e) i

theorem length_outAll (ns : List (Node Role)) (e : Env) : (outAll ns e).length = ns.length := by
  induction ns generalizing e with
  | nil => rfl
  | cons n ns ih => simp [ih]

/-- The signature of what a construct becomes. -/
theorem signature?_out (h : n.signature? = some sg) (e : Env) :
    (out false n e).signature? =
      some ⟨outAll sg.receiver e.push, sg.typeParams, outAll sg.fields (sg.start e)⟩ := by
  unfold signature? at h
  split at h <;> cases h <;> rw [outAll_append]
  case h_1 recv => cases recv <;> rfl
  all_goals rfl

/-! The types of a signature -/

namespace Signature

theorem isInner_around (he : e.scope.lookup blank = false) : (sg.around e).IsInner := by
  rw [around, Env.declareAll_eq_declares rfl]
  exact (Env.isInner_push he).declares _

theorem start_eq (he : e.scope.lookup blank = false) (hr : ∀ f ∈ sg.receiver, f.IsField) :
    sg.start e = (e.push.declares (sg.receiver.flatMap fieldNames)).declares sg.typeParams := by
  have hp := Env.isInner_push he
  rw [start, afterAll_fields hp hr, Env.declareAll_eq_declares (hp.declares _).isRoot]

theorem isInner_start (he : e.scope.lookup blank = false) (hr : ∀ f ∈ sg.receiver, f.IsField) :
    (sg.start e).IsInner := by
  rw [start_eq he hr]
  exact ((Env.isInner_push he).declares _).declares _

/-- The names of the receiver come into force before the type parameters, but what is found does not
depend on it. -/
theorem resolves_start (he : e.scope.lookup blank = false) (hr : ∀ f ∈ sg.receiver, f.IsField)
    (xs : List String) (x : String) {role : Role} (hu : role = .use ∨ role = .key) :
    ((sg.start e).declares xs).resolves x role =
      ((sg.around e).declares (sg.receiver.flatMap fieldNames ++ xs)).resolves x role := by
  have hp := Env.isInner_push he
  have ha : sg.around e = e.push.declares sg.typeParams := Env.declareAll_eq_declares rfl _
  rw [Bool.eq_iff_iff, (isInner_start he hr).resolves_declares _ _ hu,
    (isInner_around he).resolves_declares _ _ hu, start_eq he hr,
    (hp.declares _).resolves_declares _ _ hu, hp.resolves_declares _ _ hu, ha,
    hp.resolves_declares _ _ hu, List.mem_append]
  tauto

/-- A type behind the receiver and some of the fields. -/
theorem identifiers_field {fs : List (Node Role)} {type : Node Role}
    (he : e.scope.lookup blank = false) (hr : ∀ f ∈ sg.receiver, f.IsField)
    (hf : ∀ f ∈ fs, f.IsField) (hc : type.isConstruct = true) :
    (out false type (afterAll fs (sg.start e))).identifiers =
      (out false type
        ((sg.around e).declares ((sg.receiver ++ fs).flatMap fieldNames))).identifiers := by
  have hs := isInner_start he hr
  have ha : (sg.around e).IsInner := isInner_around he
  rw [afterAll_fields hs hf, identifiers_eq_iff (hs.declares _) (ha.declares _) _ hc]
  intro p hp
  rw [resolves_start he hr _ _ (role_of_mem_free hp), List.flatMap_append]

end Signature

/-- Every type in a signature is resolved with the names of the receiver and of the fields before it
in force. It is resolved as it would be around the signature exactly if each of these names that it
takes from there is in force around the signature as well. -/
theorem signature_types_resolved (h : Signed s ls t n) (he : e.scope.lookup blank = false) :
    ∃ sg sg', n.signature? = some sg ∧ (out false n e).signature? = some sg' ∧
      sg'.fields.length = sg.fields.length ∧
      ∀ i < sg.fields.length, ∃ type type', sg.type? i = some type ∧ sg'.type? i = some type' ∧
        type'.identifiers = (out false type ((sg.around e).declares (sg.before i))).identifiers ∧
        (type'.identifiers = (out false type (sg.around e)).identifiers ↔
          ∀ p ∈ type.free false, p.1 ∈ sg.before i →
            p.1 = blank ∨ (sg.around e).resolves p.1 p.2 = true) := by
  obtain ⟨sg, hsg, hr, hf⟩ := h.exists_signature
  refine ⟨sg, _, hsg, signature?_out hsg e, length_outAll _ _, fun i hi => ?_⟩
  obtain ⟨xs, type, hx, hc, -⟩ := hf sg.fields[i] (List.getElem_mem hi)
  have hg : sg.fields[i]? = some (.field (bindings xs) (some type)) := by
    rw [List.getElem?_eq_getElem hi, hx]
  have hb : (out false type (afterAll (sg.fields.take i) (sg.start e))).identifiers =
      (out false type ((sg.around e).declares (sg.before i))).identifiers :=
    Signature.identifiers_field he hr (fun f hm => hf f (List.mem_of_mem_take hm)) hc
  refine ⟨type, _, ?_, ?_, hb, ?_⟩
  · rw [Signature.type?, hg]
    rfl
  · rw [Signature.type?, getElem?_outAll, hg]
    rfl
  · rw [hb]
    exact identifiers_declares (Signature.isInner_around he) _ hc

/-! A parameter with the name of a package -/

/-- A type of the package `url`. -/
def urlType (slot : Option Slot) (start stop : Nat) : Tree :=
  written (.expr .qualifiedType) slot start stop
    [written (.expr .packageIdentifier) (some .package) start (start + 3) [],
      written (.expr .typeIdentifier) (some .name) (start + 4) stop []]

/-- A parameter with the name from `start` to `mid`, then a blank and its type. -/
def paramTree (start mid stop : Nat) (type : Tree) : Tree :=
  written (.other "parameter_declaration") none start stop
    [written (.expr .identifier) (some .name) start mid [], type]

/-- The function `func f(url *url.URL, v url.Values) {}`. -/
def urlFunc : Tree :=
  written .functionDeclaration none 0 37
    [letter (some .name) 5,
      written (.part .parameterList) (some .parameters) 6 34
        [paramTree 7 10 19 (written (.expr .pointerType) (some .type) 11 19 [urlType none 12 19]),
          paramTree 21 22 33 (urlType (some .type) 23 33)],
      written (.stmt .block) (some .body) 35 37 []]

def urlSource : Source :=
  ⟨"p.go", "func f(url *url.URL, v url.Values) \x7b\x7d".toUTF8.toList⟩

/-- The type of the second parameter, as it is read and as it is resolved in a file that declares
`f` alone. -/
theorem second_urlFunc :
    ∃ n sg sg' type type', funcDecl urlSource (readers urlSource urlFunc) = .ok n ∧
      n.signature? = some sg ∧ (out false n (.ofFile ["f"])).signature? = some sg' ∧
      sg.type? 1 = some type ∧ sg'.type? 1 = some type' ∧ 1 < sg.fields.length ∧
      sg.before 1 = ["url"] ∧
      (out false type (sg.around (.ofFile ["f"]))).identifiers =
        [("url", false), ("Values", false)] ∧
      type'.identifiers = [("url", true), ("Values", false)] := by
  obtain ⟨n, hn⟩ := Except.exists_eq_ok (x := funcDecl urlSource (readers urlSource urlFunc))
    (by decide +kernel)
  have h : ((funcDecl urlSource (readers urlSource urlFunc)).toOption.bind fun n =>
      n.signature?.bind fun sg => (out false n (.ofFile ["f"])).signature?.bind fun sg' =>
        (sg.type? 1).bind fun type => (sg'.type? 1).map fun type' =>
          (decide (1 < sg.fields.length), sg.before 1,
            (out false type (sg.around (.ofFile ["f"]))).identifiers, type'.identifiers)) =
      some (true, ["url"], [("url", false), ("Values", false)],
        [("url", true), ("Values", false)]) := by
    decide +kernel
  simp only [hn, Except.toOption, Option.bind_some, Option.bind_eq_some_iff,
    Option.map_eq_some_iff, Prod.mk.injEq, decide_eq_true_eq] at h
  obtain ⟨sg, hsg, sg', hsg', type, ht, type', ht', hl, hb, hi, hi'⟩ := h
  exact ⟨n, sg, sg', type, type', hn, hsg, hsg', ht, ht', hl, hb, hi, hi'⟩

/-- In a file that declares `f` alone, the package is not in force around the signature, but in the
type of the second parameter it is taken for the first parameter. -/
theorem parameter_found_in_signature :
    ∃ n sg sg' type type', funcDecl urlSource (readers urlSource urlFunc) = .ok n ∧
      n.signature? = some sg ∧ (out false n (.ofFile ["f"])).signature? = some sg' ∧
      sg.type? 1 = some type ∧ sg'.type? 1 = some type' ∧
      (out false type (sg.around (.ofFile ["f"]))).identifiers =
        [("url", false), ("Values", false)] ∧
      type'.identifiers = [("url", true), ("Values", false)] := by
  obtain ⟨n, sg, sg', type, type', hn, hsg, hsg', ht, ht', -, -, hi, hi'⟩ := second_urlFunc
  exact ⟨n, sg, sg', type, type', hn, hsg, hsg', ht, ht', hi, hi'⟩

theorem signature_types_resolved_urlFunc :
    ∃ n, Signed urlSource [] urlFunc n ∧
      ∃ sg sg' type type', n.signature? = some sg ∧
        (out false n (.ofFile ["f"])).signature? = some sg' ∧
        sg.type? 1 = some type ∧ sg'.type? 1 = some type' ∧
        type'.identifiers =
          (out false type ((sg.around (.ofFile ["f"])).declares ["url"])).identifiers ∧
        ∃ p ∈ type.free false, p.1 = "url" ∧
          (sg.around (.ofFile ["f"])).resolves p.1 p.2 = false := by
  obtain ⟨n, sg, sg', type, type', hn, hsg, hsg', ht, ht', hl, hb, hi, hi'⟩ := second_urlFunc
  have hr : Signed urlSource [] urlFunc n := .function (.inl rfl) hn
  obtain ⟨_, _, hsg₂, hsg₂', -, hf⟩ :=
    signature_types_resolved hr (e := .ofFile ["f"]) (by decide +kernel)
  cases hsg.symm.trans hsg₂
  cases hsg'.symm.trans hsg₂'
  obtain ⟨_, _, ht₂, ht₂', heq, hiff⟩ := hf 1 hl
  cases ht.symm.trans ht₂
  cases ht'.symm.trans ht₂'
  rw [hb] at heq hiff
  refine ⟨n, hr, sg, sg', type, type', hsg, hsg', ht, ht', heq, ?_⟩
  have hne : type'.identifiers ≠ (out false type (sg.around (.ofFile ["f"]))).identifiers := by
    rw [hi, hi']
    decide
  rw [Ne, hiff] at hne
  push Not at hne
  obtain ⟨p, hp, hx, -, hq⟩ := hne
  exact ⟨p, hp, List.mem_singleton.1 hx, by simpa using hq⟩

end GoMetrics
