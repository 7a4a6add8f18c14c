import ShellWord.Proofs.Findings
import Mathlib.Data.List.Forall2

/-!
# Relative imports

A relative import names a module of the package itself, so what it is called should not matter. The
check looks at the name alone: a relative import is reported like an absolute one. So relative
imports go unnoticed exactly in the programs in which none of them names a module like a banned one,
and giving them other names changes nothing as long as no such name comes up.
-/

namespace ShellWord.StyleCheck

namespace Node

/-- The occasion is a relative import. -/
def IsRelative (root : Node) (o : Occasion) : Prop :=
  ∃ place line level module? parts, o = .importedFrom place ∧
    root.at? place = some (.mk line (.importFrom (level + 1) module?) parts)

/-- A node is a relative import of a module with a banned name. -/
def IsBannedRelative (n : Node) : Prop :=
  ∃ level module, n.kind = .importFrom (level + 1) (some module) ∧ IsBannedName module

/-- A program has a relative import of a module with a banned name. -/
def NamesBannedRelatively (root : Node) : Prop :=
  ∃ place n, root.at? place = some n ∧ n.IsBannedRelative

/-- Two nodes by themselves are the same, but for the name of the module in a relative import. -/
def SameButRelative (n n' : Node) : Prop :=
  n.line = n'.line ∧ (n.kind = n'.kind ∨ ∃ level module module',
    n.kind = .importFrom (level + 1) (some module) ∧
    n'.kind = .importFrom (level + 1) (some module'))

/-- Two trees are the same, but for the names of modules in relative imports. -/
def RenamesRelative (t t' : Node) : Prop :=
  ∀ place, Option.Rel SameButRelative (t.at? place) (t'.at? place)

end Node

open Node

variable {root t t' n n' : Node} {place : List Nat} {o : Occasion} {f : Finding}
  {rule rule' : Occasion → Finding → Prop} {found found' : List Finding}

/-! ## Lists -/

theorem forall₂_of_getElem? {α β : Type} {R : α → β → Prop} {l : List α} {l' : List β}
    (h : ∀ i : Nat, Option.Rel R l[i]? l'[i]?) : List.Forall₂ R l l' := by
  induction l generalizing l' with
  | nil =>
    cases l' with
    | nil => exact .nil
    | cons b rest => cases h 0
  | cons a rest ih =>
    cases l' with
    | nil => cases h 0
    | cons b rest' =>
      cases h 0 with
      | some hab => exact .cons hab (ih fun i => h (i + 1))

theorem ListsEachOnce.congr (h : ListsEachOnce rule found)
    (hrule : ∀ o f, rule o f ↔ rule' o f) : ListsEachOnce rule' found := by
  obtain ⟨reported, hnodup, hmem, hperm⟩ := h
  exact ⟨reported, hnodup, fun o f => (hmem o f).trans (hrule o f), hperm⟩

/-- A rule that leaves something out lists less. -/
theorem ListsEachOnce.eq_of_imp (h : ListsEachOnce rule found) (h' : ListsEachOnce rule' found)
    (himp : ∀ o f, rule o f → rule' o f) : rule' o f → rule o f := by
  obtain ⟨reported, hnodup, hmem, hperm⟩ := h
  obtain ⟨reported', hnodup', hmem', hperm'⟩ := h'
  have hsub : reported.Subperm reported' :=
    List.subperm_of_subset (List.Nodup.of_map Prod.fst hnodup) fun ⟨o, f⟩ hof =>
      (hmem' o f).2 (himp o f ((hmem o f).1 hof))
  have hlength : reported'.length ≤ reported.length := by
    have hfound := hperm.length_eq.symm.trans hperm'.length_eq
    rw [List.length_map, List.length_map] at hfound
    omega
  intro hof
  exact (hmem o f).1 ((hsub.perm_of_length_le hlength).mem_iff.2 ((hmem' o f).2 hof))

namespace Node

theorem namesBannedRelatively_iff :
    root.NamesBannedRelatively ↔ ∃ o f, root.Reports o f ∧ root.IsRelative o := by
  constructor
  · rintro ⟨place, ⟨line, kind, parts⟩, hnode, level, module, hkind, hbanned⟩
    cases hkind
    exact ⟨_, _, .importedFrom hnode hbanned, place, line, level, _, parts, rfl, hnode⟩
  · rintro ⟨o, f, hreports, place, line, level, module?, parts, rfl, hrelative⟩
    cases hreports with
    | importedFrom hnode hbanned =>
      cases hrelative.symm.trans hnode
      exact ⟨place, _, hnode, level, _, rfl, hbanned⟩

/-! ## Renamed trees -/

theorem RenamesRelative.same (h : RenamesRelative t t') : SameButRelative t t' := by
  have hroot := h []
  rw [at?, at?] at hroot
  cases hroot with
  | some hsame => exact hsame

/-- At each place of renamed trees stand renamed trees. -/
theorem RenamesRelative.exists_at? (h : RenamesRelative t t') (hn : t.at? place = some n) :
    ∃ n', t'.at? place = some n' ∧ RenamesRelative n n' := by
  have hplace := h place
  rw [hn] at hplace
  cases hn' : t'.at? place with
  | none =>
    rw [hn'] at hplace
    cases hplace
  | some n' =>
    refine ⟨n', rfl, fun more => ?_⟩
    have hmore := h (place ++ more)
    rwa [at?_append, at?_append, hn, hn'] at hmore

theorem RenamesRelative.parts (h : RenamesRelative t t') :
    List.Forall₂ RenamesRelative t.parts t'.parts := by
  refine forall₂_of_getElem? fun i => ?_
  have hplace (place : List Nat) := h (i :: place)
  simp only [at?] at hplace
  cases hi : t.parts[i]? with
  | none =>
    cases hi' : t'.parts[i]? with
    | none => exact .none
    | some part' =>
      have hroot := hplace []
      rw [hi, hi'] at hroot
      cases hroot
  | some part =>
    cases hi' : t'.parts[i]? with
    | none =>
      have hroot := hplace []
      rw [hi, hi'] at hroot
      cases hroot
    | some part' =>
      rw [hi, hi'] at hplace
      exact .some hplace

theorem renamesRelative_of_parts (hsame : SameButRelative t t')
    (hparts : List.Forall₂ RenamesRelative t.parts t'.parts) : RenamesRelative t t' := by
  intro place
  cases place with
  | nil => exact .some hsame
  | cons i rest =>
    rw [Node.at?, Node.at?]
    generalize t.parts = parts, t'.parts = parts' at hparts
    induction hparts generalizing i with
    | nil => exact .none
    | cons hfirst _ ih =>
      cases i with
      | zero => exact hfirst rest
      | succ i => exact ih i

mutual

theorem RenamesRelative.size_eq : ∀ {t t' : Node}, RenamesRelative t t' → t.size = t'.size
  | mk _ _ parts, mk _ _ parts', h => by
    have hparts : sizes parts = sizes parts' := sizes_eq_of_renamesRelative h.parts
    rw [size, size, hparts]

theorem sizes_eq_of_renamesRelative :
    ∀ {ps ps' : List Node}, List.Forall₂ RenamesRelative ps ps' → sizes ps = sizes ps'
  | [], _, h => by cases h; rfl
  | t :: rest, _, h => by
    cases h with
    | cons ht hrest => rw [sizes, sizes, ht.size_eq, sizes_eq_of_renamesRelative hrest]

end

/-- Renamed queues stay so while they are worked off. -/
theorem forall₂_drain {queue queue' : List Node} (h : List.Forall₂ RenamesRelative queue queue')
    (count : Nat) : List.Forall₂ RenamesRelative (drain count queue) (drain count queue') := by
  induction count generalizing queue queue' with
  | zero => exact .nil
  | succ count ih =>
    cases h with
    | nil => exact .nil
    | cons ht hrest => exact .cons ht (ih (List.rel_append hrest ht.parts))

theorem RenamesRelative.breadthFirst (h : RenamesRelative t t') :
    List.Forall₂ RenamesRelative t.breadthFirst t'.breadthFirst := by
  rw [Node.breadthFirst, Node.breadthFirst, ← h.size_eq]
  exact forall₂_drain (.cons h .nil) t.size

/-! ## What a renamed node is reported for -/

theorem RenamesRelative.kind_eq (h : RenamesRelative t t')
    (hkind : ∀ level module, t.kind ≠ .importFrom (level + 1) (some module)) :
    t.kind = t'.kind := by
  obtain ⟨-, heq | ⟨level, module, -, ht, -⟩⟩ := h.same
  · exact heq
  · exact absurd ht (hkind level module)

theorem SameButRelative.symm (h : SameButRelative n n') : SameButRelative n' n := by
  obtain ⟨hline, heq | ⟨level, module, module', hn, hn'⟩⟩ := h
  · exact ⟨hline.symm, .inl heq.symm⟩
  · exact ⟨hline.symm, .inr ⟨level, module', module, hn', hn⟩⟩

theorem RenamesRelative.symm (h : RenamesRelative t t') : RenamesRelative t' t := by
  intro place
  have hplace := h place
  generalize t.at? place = first, t'.at? place = second at hplace ⊢
  cases hplace with
  | none => exact .none
  | some hsame => exact .some hsame.symm

theorem RenamesRelative.decodeConstant?_eq_some {c : Constant} (h : RenamesRelative t t')
    (hc : t.decodeConstant? = some c) : t'.decodeConstant? = some c := by
  obtain ⟨line, positional, function, argument, rest, rfl, hfunction, hargument⟩ :=
    decodeConstant?_eq_some_iff.1 hc
  obtain ⟨line', kind', parts'⟩ := t'
  have hkind := h.kind_eq (by simp)
  have hparts := h.parts
  rw [kind_mk, kind_mk] at hkind
  rw [parts_mk, parts_mk] at hparts
  cases hparts with
  | cons hfirst hothers =>
    cases hothers with
    | cons hsecond _ =>
      subst hkind
      refine decodeConstant?_eq_some_iff.2 ⟨line', positional, _, _, _, rfl, ?_, ?_⟩
      · rw [← hfirst.kind_eq (by simp [hfunction]), hfunction]
      · rw [← hsecond.kind_eq (by simp [hargument]), hargument]

theorem RenamesRelative.isBannedDecode_eq (h : RenamesRelative t t') :
    t.isBannedDecode = t'.isBannedDecode := by
  have hconstant : t.decodeConstant? = t'.decodeConstant? :=
    Option.ext fun c => ⟨h.decodeConstant?_eq_some, h.symm.decodeConstant?_eq_some⟩
  rw [isBannedDecode, isBannedDecode, hconstant]

/-- Unless it is a relative import of a module with a banned name, a node is reported under other
names of relative imports too. -/
theorem RenamesRelative.reportsAt_subset (h : RenamesRelative n n') (hn : ¬ n.IsBannedRelative)
    (hmem : (o, f) ∈ n.reportsAt place) : (o, f) ∈ n'.reportsAt place := by
  obtain ⟨hline, heq | ⟨level, module, module', hkind, -⟩⟩ := h.same
  · rwa [reportsAt, ← heq, ← h.isBannedDecode_eq, ← hline]
  · obtain ⟨line, kind, parts⟩ := n
    cases hkind
    obtain ⟨module, hmodule, hbanned, -⟩ := mem_reportsAt_importFrom.1 hmem
    cases hmodule
    exact absurd ⟨level, _, rfl, hbanned⟩ hn

theorem filter_eq_nil_of_not_isBannedRelative {level : Nat} {module : DottedName}
    (hkind : n.kind = .importFrom (level + 1) (some module)) (hn : ¬ n.IsBannedRelative) :
    n.importedModules.filter isBannedModule = [] := by
  have hbanned : ¬ isBannedModule module = true := fun hbanned =>
    hn ⟨level, module, hkind, isBannedModule_iff.1 hbanned⟩
  simp [importedModules, hkind, hbanned]

theorem RenamesRelative.ownFindings_eq (h : RenamesRelative n n') (hn : ¬ n.IsBannedRelative)
    (hn' : ¬ n'.IsBannedRelative) : n.ownFindings = n'.ownFindings := by
  have himports : n.importedModules.filter isBannedModule =
      n'.importedModules.filter isBannedModule := by
    obtain ⟨-, heq | ⟨level, module, module', hkind, hkind'⟩⟩ := h.same
    · rw [importedModules, importedModules, heq]
    · rw [filter_eq_nil_of_not_isBannedRelative hkind hn,
        filter_eq_nil_of_not_isBannedRelative hkind' hn']
  rw [ownFindings, ownFindings, himports, h.same.1, h.isBannedDecode_eq]

theorem mapM_ownFindings_eq {ns ns' : List Node} (h : List.Forall₂ RenamesRelative ns ns')
    (hns : ∀ n ∈ ns, ¬ n.IsBannedRelative) (hns' : ∀ n ∈ ns', ¬ n.IsBannedRelative) :
    ns.mapM ownFindings = ns'.mapM ownFindings := by
  induction h with
  | nil => rfl
  | cons hn _ ih =>
    obtain ⟨hfirst, hrest⟩ := List.forall_mem_cons.1 hns
    obtain ⟨hfirst', hrest'⟩ := List.forall_mem_cons.1 hns'
    rw [List.mapM_cons, List.mapM_cons, hn.ownFindings_eq hfirst hfirst', ih hrest hrest']

/-! ## Programs -/

theorem not_isBannedRelative_of_mem (h : ¬ root.NamesBannedRelatively) :
    ∀ n ∈ root.breadthFirst, ¬ n.IsBannedRelative := by
  intro n hn hbanned
  obtain ⟨place, hnode⟩ := mem_breadthFirst_iff.1 hn
  exact h ⟨place, n, hnode, hbanned⟩

theorem RenamesRelative.findings_eq (h : RenamesRelative t t') (ht : ¬ t.NamesBannedRelatively)
    (ht' : ¬ t'.NamesBannedRelatively) : t.findings = t'.findings := by
  rw [findings, findings, mapM_ownFindings_eq h.breadthFirst (not_isBannedRelative_of_mem ht)
    (not_isBannedRelative_of_mem ht')]

theorem RenamesRelative.reports (h : RenamesRelative t t') (ht : ¬ t.NamesBannedRelatively)
    (hreports : t.Reports o f) : t'.Reports o f := by
  obtain ⟨⟨place, n⟩, hplaced, hmem⟩ := List.mem_flatMap.1 (mem_reported_iff.2 hreports)
  have hnode := mem_placed_iff.1 hplaced
  obtain ⟨n', hnode', hrenames⟩ := h.exists_at? hnode
  have hn : ¬ n.IsBannedRelative := fun hbanned => ht ⟨place, n, hnode, hbanned⟩
  exact ((mem_reportsAt_iff hnode').1 (hrenames.reportsAt_subset hn hmem)).1

theorem RenamesRelative.isRelative (h : RenamesRelative t t') (ho : t.IsRelative o) :
    t'.IsRelative o := by
  obtain ⟨place, line, level, module?, parts, rfl, hnode⟩ := ho
  obtain ⟨⟨line', kind', parts'⟩, hnode', hrenames⟩ := h.exists_at? hnode
  obtain ⟨-, heq | ⟨level, module, module', hkind, hkind'⟩⟩ := hrenames.same
  · cases heq
    exact ⟨place, line', level, module?, parts', rfl, hnode'⟩
  · cases hkind'
    exact ⟨place, line', level, _, parts', rfl, hnode'⟩

/-- A name like a banned one that comes up in a relative import is reported in addition. -/
theorem RenamesRelative.findings_ne (h : RenamesRelative t t') (ht : ¬ t.NamesBannedRelatively)
    (ht' : t'.NamesBannedRelatively) (hfound : t.findings = .ok found) :
    t'.findings ≠ .ok found := by
  intro hfound'
  have hlists := listsEachOnce_of_findings hfound
  have hlists' := listsEachOnce_of_findings hfound'
  obtain ⟨o, f, hreports, hrelative⟩ := namesBannedRelatively_iff.1 ht'
  have hback := hlists.eq_of_imp hlists' (fun o f => h.reports ht) hreports
  exact ht (namesBannedRelatively_iff.2 ⟨o, f, hback, h.symm.isRelative hrelative⟩)

/-- The findings are those that are no relative imports exactly if there is no relative import among
them. -/
theorem listsEachOnce_absolute_iff (hfound : root.findings = .ok found) :
    ListsEachOnce (fun o f => root.Reports o f ∧ ¬ root.IsRelative o) found ↔
      ¬ root.NamesBannedRelatively := by
  have hlists := listsEachOnce_of_findings hfound
  constructor
  · rintro habsolute hnames
    obtain ⟨o, f, hreports, hrelative⟩ := namesBannedRelatively_iff.1 hnames
    exact (habsolute.eq_of_imp hlists (fun o f => And.left) hreports).2 hrelative
  · intro hnone
    refine hlists.congr fun o f => ⟨fun hreports => ⟨hreports, fun hrelative => ?_⟩, And.left⟩
    exact hnone (namesBannedRelatively_iff.2 ⟨o, f, hreports, hrelative⟩)

end Node

/-- Relative imports are reported like absolute ones: a program's findings are those that are no
relative imports exactly if none of its relative imports names a module like a banned one. As long
as that is so, other names in relative imports change nothing, and it is so no longer when a name
like a banned one comes up. -/
theorem relative_imports_unnoticed_iff {source : List Char} {tree : Node} (hnul : '\x00' ∉ source)
    (h : parse? source = some tree) :
    (∀ found, checkSource source = .ok found →
      (ListsEachOnce (fun o f => tree.Reports o f ∧ ¬ tree.IsRelative o) found ↔
        ¬ tree.NamesBannedRelatively)) ∧
    (¬ tree.NamesBannedRelatively → ∀ source' tree', '\x00' ∉ source' →
      parse? source' = some tree' → tree.RenamesRelative tree' →
      (¬ tree'.NamesBannedRelatively → checkSource source' = checkSource source) ∧
      (tree'.NamesBannedRelatively → ∀ found, checkSource source = .ok found →
        checkSource source' ≠ .ok found)) := by
  rw [checkSource_eq_findings hnul h]
  refine ⟨fun found => listsEachOnce_absolute_iff, fun hnone source' tree' hnul' h' hrenames => ?_⟩
  rw [checkSource_eq_findings hnul' h']
  exact ⟨fun hnone' => (hrenames.findings_eq hnone hnone').symm,
    fun hnames found hfound => hrenames.findings_ne hnone hnames hfound⟩

/-- A program that imports something relatively, in a function. -/
def relativeImport (module : String) : List Char :=
  "def f():\n  from ..".toList ++ module.toList ++ ".core import quote\n".toList

/-- The syntax tree of the program. -/
def relativeImportTree (module : String) : Node :=
  plainNode 1 [plainNode 1 [plainNode 1 [], .mk 2 (.importFrom 2 (some [module, "core"])) []]]

theorem renamesRelative_relativeImportTree (module module' : String) :
    (relativeImportTree module).RenamesRelative (relativeImportTree module') := by
  have himport : RenamesRelative (.mk 2 (.importFrom 2 (some [module, "core"])) [])
      (.mk 2 (.importFrom 2 (some [module', "core"])) []) :=
    renamesRelative_of_parts ⟨rfl, .inr ⟨1, _, _, rfl, rfl⟩⟩ .nil
  have hparameters : RenamesRelative (plainNode 1 []) (plainNode 1 []) :=
    renamesRelative_of_parts ⟨rfl, .inl rfl⟩ .nil
  have hfunction : RenamesRelative
      (plainNode 1 [plainNode 1 [], .mk 2 (.importFrom 2 (some [module, "core"])) []])
      (plainNode 1 [plainNode 1 [], .mk 2 (.importFrom 2 (some [module', "core"])) []]) :=
    renamesRelative_of_parts ⟨rfl, .inl rfl⟩ (.cons hparameters (.cons himport .nil))
  exact renamesRelative_of_parts ⟨rfl, .inl rfl⟩ (.cons hfunction .nil)

theorem namesBannedRelatively_relativeImportTree {module : String}
    (h : (relativeImportTree module).NamesBannedRelatively) :
    module = "shlex" ∨ module = "pipes" := by
  obtain ⟨place, n, hnode, level, name, hkind, hbanned⟩ := h
  have hmem : n ∈ (relativeImportTree module).preorder := by
    rw [← map_snd_placed, List.mem_map]
    exact ⟨(place, n), mem_placed_iff.2 hnode, rfl⟩
  simp only [relativeImportTree, plainNode, preorder, preorders, List.append_nil,
    List.mem_cons, List.mem_append, List.not_mem_nil, or_false] at hmem
  obtain rfl | rfl | rfl | rfl := hmem <;> cases hkind
  simpa [IsBannedName] using hbanned

/-- Other names for a relative import of a module with a harmless name. -/
theorem relative_imports_unnoticed_iff_words :
    '\x00' ∉ relativeImport "words" ∧ '\x00' ∉ relativeImport "text" ∧
    parse? (relativeImport "words") = some (relativeImportTree "words") ∧
    parse? (relativeImport "text") = some (relativeImportTree "text") ∧
    ¬ (relativeImportTree "words").NamesBannedRelatively ∧
    ¬ (relativeImportTree "text").NamesBannedRelatively ∧
    (relativeImportTree "words").RenamesRelative (relativeImportTree "text") ∧
    checkSource (relativeImport "text") = checkSource (relativeImport "words") ∧
    checkSource (relativeImport "words") = .ok [] ∧
    ListsEachOnce (fun o f => (relativeImportTree "words").Reports o f ∧
      ¬ (relativeImportTree "words").IsRelative o) [] := by
  have hnul : '\x00' ∉ relativeImport "words" := by decide
  have hnul' : '\x00' ∉ relativeImport "text" := by decide
  have hparse : parse? (relativeImport "words") = some (relativeImportTree "words") := by
    decide +kernel
  have hparse' : parse? (relativeImport "text") = some (relativeImportTree "text") := by
    decide +kernel
  have hcheck : checkSource (relativeImport "words") = .ok [] := by decide +kernel
  have hnone : ¬ (relativeImportTree "words").NamesBannedRelatively := fun h => by
    simpa using namesBannedRelatively_relativeImportTree h
  have hnone' : ¬ (relativeImportTree "text").NamesBannedRelatively := fun h => by
    simpa using namesBannedRelatively_relativeImportTree h
  have hrenames := renamesRelative_relativeImportTree "words" "text"
  obtain ⟨habsolute, hunchanged⟩ := relative_imports_unnoticed_iff hnul hparse
  exact ⟨hnul, hnul', hparse, hparse', hnone, hnone', hrenames,
    (hunchanged hnone _ _ hnul' hparse' hrenames).1 hnone', hcheck,
    (habsolute _ hcheck).2 hnone⟩

/-- A relative import of a module called `shlex` is reported, and no longer under another name. -/
theorem relative_import_noticed_shlex :
    parse? (relativeImport "shlex") = some (relativeImportTree "shlex") ∧
    parse? (relativeImport "words") = some (relativeImportTree "words") ∧
    (relativeImportTree "shlex").RenamesRelative (relativeImportTree "words") ∧
    checkSource (relativeImport "shlex") = .ok [importFinding 2 ["shlex", "core"]] ∧
    checkSource (relativeImport "words") = .ok [] :=
  ⟨by decide +kernel, by decide +kernel, renamesRelative_relativeImportTree _ _,
    by decide +kernel, by decide +kernel⟩

end ShellWord.StyleCheck
