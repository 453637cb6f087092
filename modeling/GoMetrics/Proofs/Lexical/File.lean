import GoMetrics.Proofs.Binding.Simulation
import GoMetrics.Proofs.Lexical.Stmts

/-!
Top-level nodes of a file. What a node declares belongs to the names of its file, so that the scope
of the file never changes while its nodes are read; only the names above grow.
-/

namespace GoMetrics.Lexical

open Draft Binding

variable {s : Source} {ls : List String} {t : Tree}

/-! Functions -/

theorem sites_funcDecl {name : String} {role : Role} {tps : List String}
    {params results : List (Node Role)} {keyword : Bool} {pos stop : Position}
    {body : Option (Node Role)} {recv : Option (List (Node Role))} (v : Visible) :
    (Node.funcDecl name role tps (.funcType params results keyword) pos stop body recv).sites
        false v =
      let v₂ := (Node.past (recv.getD []) v.inside).declare tps
      [.ofRole name v role] ++ Node.sitesAll (params ++ results) v₂ ++
        Node.sitesAll body.toList
          (v₂.declare ((params ++ results).flatMap (Node.binds false false))) ++
        Node.sitesAll (recv.getD []) v.inside := by
  rw [Node.sites_eq, Node.ownSites_of_isCompound rfl]
  simp only [Node.stands, List.flatMap_cons, List.flatMap_append, Node.Stand.sites, sites_ident,
    sites_signature, binds_signature, List.append_assoc]
  rfl

theorem sites_of_funcDecl {n : Node Role}
    (h : Draft.funcDecl s (readers s t) = .ok n) (v : Context) :
    n.sites false v.toVisible = sites s .func t v := by
  obtain ⟨name, hname, own, ho, recv, hr, type, ht, body, hb, rfl⟩ := funcDecl_eq_ok.1 h
  obtain ⟨c, hc, rfl⟩ := slotText_eq_ok.1 hname
  obtain ⟨ps, rs, rfl, hs⟩ := gives_signature (fun d => sound s d.1) ht
  have hr := gives_receiver hr
  have hb : Gives s own body.toList [] (one .block (t.at? .body)) :=
    .each_quiet rfl (hb.imp fun d _ hd => reads_block (fun e => sound s e.1) hd)
  let recv? := if t.kind = .methodDeclaration then t.at? .receiver else none
  let v₂ := ((v.enter own).declare (gains s .params recv?)).declare (typeParams s t)
  have hp : Node.past (recv.getD []) v.toVisible.inside =
      ((v.enter own).declare (gains s .params recv?)).toVisible :=
    hr.past (v.enter own)
  have hn : (one (.text (if t.kind = .methodDeclaration then .settled false else .use))
      (t.at? .name) v).flatMap (Visit.sites s) =
      [.ofRole (s.textOf c.1) v.toVisible
        (if t.kind = .methodDeclaration then .settled false else .use)] := by
    rw [hc]
    exact (List.append_nil _).trans (sites_text _ c.1 v)
  have hv : visits s .func t v =
      one (.text (if t.kind = .methodDeclaration then .settled false else .use)) (t.at? .name) v ++
        signature s t v₂ ++ one .block (t.at? .body) (pastSignature s t v₂) ++
        one .params recv? (v.enter own) := by
    change funcVisits s t v = _
    simp only [funcVisits, labels_of_bodyLabels ho]
    rfl
  rw [sites_funcDecl, sites_eq, hv]
  simp only [List.flatMap_append, hn, hp, hs.binds]
  rw [← hs.sites v₂ rfl, ← hb.sites (pastSignature s t v₂) rfl, ← hr.sites (v.enter own) rfl]
  simp only [Visible.declare_append]
  rfl

/-- Only a function puts its name above what follows it; a method has none to look up. -/
theorem binds_of_funcDecl {n : Node Role}
    (hk : t.kind = .functionDeclaration ∨ t.kind = .methodDeclaration)
    (h : Draft.funcDecl s (readers s t) = .ok n) : n.binds true false = topDeclared s t := by
  obtain ⟨name, hname, own, -, recv, hr, type, -, body, -, rfl⟩ := funcDecl_eq_ok.1 h
  obtain ⟨c, hc, rfl⟩ := slotText_eq_ok.1 hname
  rw [receiver_eq_ok] at hr
  rw [Node.binds]
  obtain hk | hk := hk
  · have hr : none = recv := by simpa [hk] using hr
    by_cases hi : s.textOf c.1 = "init" <;> simp [topDeclared, fileNames, hk, ← hr, hc, hi]
  · have hr : recv ≠ none := by
      rintro rfl
      simp [hk] at hr
    simp [topDeclared, hk, hr]

/-! Declarations -/

/-- The first child in a slot is one of the children in it. -/
theorem mem_allAt_of_at? {p : Slot} {c : Tree.Below t} (h : t.at? p = some c) :
    c ∈ t.allAt p := by
  rw [Tree.at?] at h
  have hp := List.find?_some h
  exact List.mem_filter.2 ⟨List.mem_of_find?_eq_some h, hp⟩

theorem mem_names_of_declared_spec {x : String} (h : x ∈ declared s .spec t) : x ∈ names s t := by
  have first : x ∈ ((t.at? .name).toList.map fun c => s.textOf c.1) → x ∈ names s t := by
    intro hx
    obtain ⟨c, hc, rfl⟩ := List.mem_map.1 hx
    exact List.mem_map_of_mem (mem_allAt_of_at? (Option.mem_toList.1 hc))
  rw [declared] at h
  simp only [Mode.on] at h
  split at h
  · exact first h
  · exact first h
  · exact h

theorem mem_fileNames_of_declared {k : DeclKind} (hk : t.kind = .decl k) {x : String}
    (h : x ∈ declared s .stmt t) : x ∈ fileNames s t := by
  have hm : Mode.stmt.on t.kind = .stmt := by
    rw [hk]
    rfl
  rw [declared, hm] at h
  simp only [hk, List.mem_flatMap] at h
  obtain ⟨c, hc, hx⟩ := h
  have hs : ∃ d ∈ t.specs, x ∈ names s d.1 := by
    simp only [Tree.specs, List.mem_flatMap]
    by_cases hl : c.1.kind.isSpecList = true
    · have hm : Mode.specs.on c.1.kind = .specs := if_pos hl
      rw [declared, hm] at hx
      simp only [List.mem_flatMap] at hx
      obtain ⟨d, hd, hx⟩ := hx
      refine ⟨c.trans d, ⟨c, hc, ?_⟩, mem_names_of_declared_spec hx⟩
      rw [if_pos hl]
      exact List.mem_map_of_mem hd
    · have hm : Mode.specs.on c.1.kind = .spec := if_neg hl
      have hx : x ∈ declared s .spec c.1 := by
        rw [declared, hm] at hx
        rw [declared]
        exact hx
      exact ⟨c, ⟨c, hc, by simp [hl]⟩, mem_names_of_declared_spec hx⟩
  simp only [fileNames, hk, List.mem_flatMap]
  exact hs

/-- What a top-level node declares is visible throughout the file. -/
theorem mem_fileNames_of_topDeclared {x : String} (h : x ∈ topDeclared s t) :
    x ∈ fileNames s t := by
  unfold topDeclared at h
  split at h
  · exact h
  · exact mem_fileNames_of_declared ‹_› h
  · cases h

theorem fileNames_of_ok {xs : List String} (h : Draft.fileNames s t = .ok xs) :
    fileNames s t = xs := by
  unfold Draft.fileNames at h
  split at h
  · rename_i hk
    simp only [Except.bind_eq_ok, Except.pure_eq_ok, slotText_eq_ok] at h
    obtain ⟨_, ⟨c, hc, rfl⟩, rfl⟩ := h
    simp [fileNames, hk, hc]
  · rename_i k hk
    cases h
    simp [fileNames, hk]
  · rename_i hf hd
    cases h
    unfold fileNames
    split
    · contradiction
    · exact absurd ‹_› (hd _)
    · rfl

/-- A top-level node that declares something is read as the table says, and what it declares goes
above what follows it. -/
theorem top_of_decl {d : Option (Node Role)} (h : decl s t = .ok d) :
    d.toList.flatMap (Node.binds true false) = topDeclared s t ∧
      ∀ v : Context, v.labels = [] →
        Node.sitesAll d.toList v.toVisible = sites s (topMode t) t v := by
  obtain ⟨hk, n, hn, rfl⟩ | ⟨k, hk, n, hn, rfl⟩ | ⟨hk, rfl⟩ := decl_eq_ok.1 h
  · refine ⟨?_, fun v _ => ?_⟩
    · rw [Option.toList_some, List.flatMap_singleton, binds_of_funcDecl hk hn]
    · rw [Option.toList_some, Node.sitesAll_singleton, sites_of_funcDecl hn]
      obtain hk | hk := hk <;> simp only [topMode, hk]
  · have hr := reads_genDecl (fun c => sound s c.1) hk hn
    refine ⟨?_, fun v hv => ?_⟩
    · rw [Option.toList_some, hr.binds, topDeclared, hk]
    · rw [Option.toList_some, hr.sites v hv, topMode, hk]
  · have ht : topDeclared s t = [] := by
      obtain hk | hk := hk <;> simp [topDeclared, hk]
    have hs : ∀ v, sites s (topMode t) t v = [] := by
      obtain hk | hk := hk <;> simp [topMode, hk, sites_eq, leaf, visits, Mode.on, Mode.atStmt,
        decides, stmtVisits]
    exact ⟨ht.symm, fun v _ => (hs v).symm⟩

/-- A top-level node read in the environment of its file. -/
theorem run_top {file : List String} {d : Option (Node Role)} {e : Env} {v : Context}
    (h : decl s t = .ok d) (hf : ∀ x ∈ fileNames s t, x ∈ file) (hs : Shows file e v.toVisible)
    (hl : v.labels = []) (ht : v.top = true) :
    afterAll d.toList e = e.declares (topDeclared s t) ∧
      (outAll d.toList e).flatMap Node.marks =
        (sites s (topMode t) t v).map (Site.judged file) := by
  obtain ⟨hb, hv⟩ := top_of_decl h
  have hn : v.top = true → ∀ x ∈ d.toList.flatMap (Node.binds true false), x ∈ file := by
    intro _ x hx
    rw [hb] at hx
    exact hf x (mem_fileNames_of_topDeclared hx)
  obtain ⟨ha, hm⟩ := agreesAll (fun n _ => agrees n false) e v.toVisible hs hn
  rw [ha, hm, ht, hb, hv v hl]
  exact ⟨rfl, rfl⟩

/-- Success of a file: no syntax error, every top-level node can be read, and the names of the
file are those that the nodes make visible. -/
theorem file_eq_ok {root : Tree} {file : List String} {drafts : List (Node Role)}
    (h : Draft.file s root = .ok (file, drafts)) :
    file = fileScope s root ∧
      ∃ ds, List.Forall₂ (fun t d => decl s t = .ok d) (fileParts root) ds ∧
        drafts = ds.reduceOption := by
  unfold Draft.file at h
  split at h
  · cases h
  · simp only [Except.bind_eq_ok, Except.pure_eq_ok, Except.mapM_eq_ok] at h
    obtain ⟨names, hn, ds, hd, h⟩ := h
    cases h
    refine ⟨?_, ds, List.forall₂_map_left_iff.2 hd, rfl⟩
    have he := hn.imp fun t xs ht => fileNames_of_ok ht
    rw [fileScope, fileParts, List.flatMap_map, List.flatMap_def]
    congr 1
    exact (List.forall₂_eq_eq_eq ▸ List.forall₂_map_left_iff.2 he : _ = names).symm

/-- The declarations of a file are its drafts, resolved in turn. -/
theorem declarations_eq_ok {root : Tree} {decls : List (Node Bool)}
    (h : GoFile.declarations s root = .ok decls) :
    ∃ ds, List.Forall₂ (fun t d => decl s t = .ok d) (fileParts root) ds ∧
      Draft.file s root = .ok (fileScope s root, ds.reduceOption) ∧
      decls = outAll ds.reduceOption (.ofFile (fileScope s root)) := by
  simp only [GoFile.declarations, Except.bind_eq_ok, Except.pure_eq_ok] at h
  obtain ⟨⟨file, drafts⟩, hfile, rfl⟩ := h
  obtain ⟨rfl, ds, hds, rfl⟩ := file_eq_ok hfile
  exact ⟨ds, hds, hfile, rfl⟩

theorem reduceOption_cons {α : Type} (o : Option α) (os : List (Option α)) :
    (o :: os).reduceOption = o.toList ++ os.reduceOption := by
  cases o <;> rfl

end GoMetrics.Lexical
