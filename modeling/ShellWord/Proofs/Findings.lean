import ShellWord.Proofs.Sequence
import ShellWord.Proofs.Traversal
import ShellWord.StyleCheck.Finding
import Mathlib.Data.List.Lattice

/-!
# What is found

A program is reported for its aliases of banned modules, its imports from banned modules and its
calls that decode from a banned encoding, wherever in the syntax tree they stand: each of them once,
and nothing else. The one thing that keeps a program from being reported is a call of `decode` for
an integer that is too long to be written out.
-/

namespace ShellWord.StyleCheck

/-- The first component of a module's name is that of a banned module. -/
def IsBannedName (module : DottedName) : Prop :=
  module.head? = some "shlex" ∨ module.head? = some "pipes"

/-- The name of an encoding is banned, whatever the case of its letters. -/
def NamesLatin1 (text : List Char) : Prop :=
  String.ofList (lowercaseText text) ∈ ["latin-1", "latin1", "iso-8859-1"]

def NodeKind.isImport : NodeKind → Bool
  | importNames _ => true
  | importFrom _ _ => true
  | _ => false

/-- What there can be to report in a tree, by its place: one of the modules that an import statement
names, an import from a module, or a call. -/
inductive Occasion
  | imported (place : List Nat) (index : Nat)
  | importedFrom (place : List Nat)
  | called (place : List Nat)

def Occasion.place : Occasion → List Nat
  | imported place _ => place
  | importedFrom place => place
  | called place => place

namespace Node

/-- What is to be reported in a tree, at which occasion. -/
inductive Reports (root : Node) : Occasion → Finding → Prop
  | imported {place : List Nat} {line i : Nat} {modules : List DottedName} {parts : List Node}
      {module : DottedName} (hnode : root.at? place = some (.mk line (.importNames modules) parts))
      (hmodule : modules[i]? = some module) (hbanned : IsBannedName module) :
      Reports root (.imported place i) (importFinding line module)
  | importedFrom {place : List Nat} {line level : Nat} {module : DottedName} {parts : List Node}
      (hnode : root.at? place = some (.mk line (.importFrom level (some module)) parts))
      (hbanned : IsBannedName module) :
      Reports root (.importedFrom place) (importFinding line module)
  | called {place : List Nat} {line positional : Nat} {function argument : Node} {rest : List Node}
      {text : List Char}
      (hnode : root.at? place =
        some (.mk line (.call (positional + 1)) (function :: argument :: rest)))
      (hfunction : function.kind = .attribute "decode")
      (hargument : argument.kind = .constant (.text text)) (htext : NamesLatin1 text) :
      Reports root (.called place) (decodeFinding line)

/-- Somewhere in a tree `decode` is called for an integer that has too many digits. -/
def HoldsLongDecode (root : Node) : Prop :=
  ∃ place line positional function argument rest n,
    root.at? place = some (.mk line (.call (positional + 1)) (function :: argument :: rest)) ∧
    function.kind = .attribute "decode" ∧ argument.kind = .constant (.integer n) ∧
    leastLong ≤ n

end Node

/-- A list holds exactly one finding for each occasion at which a rule has one, in some order. -/
def ListsEachOnce (rule : Occasion → Finding → Prop) (found : List Finding) : Prop :=
  ∃ reported : List (Occasion × Finding), (reported.map Prod.fst).Nodup ∧
    (∀ o f, (o, f) ∈ reported ↔ rule o f) ∧ found.Perm (reported.map Prod.snd)

/-! ## One node -/

variable {module : DottedName} {text : List Char} {root n : Node} {place : List Nat}
  {o : Occasion} {f : Finding}

theorem isBannedModule_iff : isBannedModule module = true ↔ IsBannedName module := by
  rw [isBannedModule, IsBannedName]
  cases module.head? <;> simp [bannedModules]

theorem isBannedEncoding_iff : isBannedEncoding text = true ↔ NamesLatin1 text := by
  rw [isBannedEncoding, NamesLatin1, List.contains_iff_mem, bannedEncodings]

namespace Node

theorem decodeConstant?_eq_some_iff {c : Constant} :
    n.decodeConstant? = some c ↔
      ∃ line positional function argument rest,
        n = .mk line (.call (positional + 1)) (function :: argument :: rest) ∧
        function.kind = .attribute "decode" ∧ argument.kind = .constant c := by
  constructor
  · intro h
    rw [decodeConstant?] at h
    split at h
    · next positional function argument rest hkind hparts =>
      split at h
      · next name constant hfunction hargument =>
        split_ifs at h with hname
        cases h
        obtain ⟨line, kind, parts⟩ := n
        cases hkind
        cases hparts
        exact ⟨line, positional, function, argument, rest, rfl, hname ▸ hfunction, hargument⟩
      · cases h
    · cases h
  · rintro ⟨line, positional, function, argument, rest, rfl, hfunction, hargument⟩
    simp [decodeConstant?, hfunction, hargument]

theorem isBannedDecode_eq_true_iff :
    n.isBannedDecode = .ok true ↔
      ∃ text, n.decodeConstant? = some (.text text) ∧ NamesLatin1 text := by
  rw [isBannedDecode]
  split
  · next c hconstant =>
    rw [hconstant]
    cases c with
    | text text => simp [Constant.isBannedEncoding, isBannedEncoding_iff]
    | integer k =>
      rw [Constant.isBannedEncoding]
      split_ifs <;> simp
    | bytes | number | singleton => simp [Constant.isBannedEncoding]
  · next hconstant => simp [hconstant]

/-- The node calls `decode` for an integer that has too many digits. -/
def DecodesLong (n : Node) : Prop := ∃ k, n.decodeConstant? = some (.integer k) ∧ leastLong ≤ k

theorem isBannedDecode_eq_error_iff {e : SourceFault} :
    n.isBannedDecode = .error e ↔ n.DecodesLong ∧ e = .longInteger := by
  rw [isBannedDecode, DecodesLong]
  split
  · next c hconstant =>
    rw [hconstant]
    cases c with
    | integer k =>
      rw [Constant.isBannedEncoding]
      split_ifs with hlong <;> simp [hlong, eq_comm]
    | text | bytes | number | singleton => simp [Constant.isBannedEncoding]
  · next hconstant => simp [hconstant]

/-- What a node by itself is reported for, if it stands at a place. -/
def reportsAt (place : List Nat) (n : Node) : List (Occasion × Finding) :=
  match n.kind with
  | .importNames modules =>
    (modules.zipIdx.filter fun m => isBannedModule m.1).map fun m =>
      (.imported place m.2, importFinding n.line m.1)
  | .importFrom _ (some module) =>
    if isBannedModule module then [(.importedFrom place, importFinding n.line module)] else []
  | _ =>
    match n.isBannedDecode with
    | .ok true => [(.called place, decodeFinding n.line)]
    | _ => []

theorem mem_reportsAt_importNames {line : Nat} {modules : List DottedName} {parts : List Node} :
    (o, f) ∈ (mk line (.importNames modules) parts).reportsAt place ↔
      ∃ i module, modules[i]? = some module ∧ IsBannedName module ∧
        o = .imported place i ∧ f = importFinding line module := by
  simp only [reportsAt, kind_mk, line_mk, List.mem_map, List.mem_filter, Prod.exists,
    List.mk_mem_zipIdx_iff_getElem?, isBannedModule_iff, Prod.mk.injEq]
  grind

theorem mem_reportsAt_importFrom {line level : Nat} {module? : Option DottedName}
    {parts : List Node} :
    (o, f) ∈ (mk line (.importFrom level module?) parts).reportsAt place ↔
      ∃ module, module? = some module ∧ IsBannedName module ∧
        o = .importedFrom place ∧ f = importFinding line module := by
  cases module? with
  | none => simp [reportsAt, isBannedDecode, decodeConstant?]
  | some module =>
    simp only [reportsAt, kind_mk, line_mk]
    split_ifs with hbanned <;> simp [hbanned, ← isBannedModule_iff]

theorem mem_reportsAt_call {line positional : Nat} {parts : List Node} :
    (o, f) ∈ (mk line (.call positional) parts).reportsAt place ↔
      (mk line (.call positional) parts).isBannedDecode = .ok true ∧
        o = .called place ∧ f = decodeFinding line := by
  simp only [reportsAt, kind_mk, line_mk]
  split <;> simp_all

/-- What a node is reported for is the part of the tree's reports that belongs to its place. -/
theorem mem_reportsAt_iff (h : root.at? place = some n) :
    (o, f) ∈ n.reportsAt place ↔ root.Reports o f ∧ o.place = place := by
  constructor
  · obtain ⟨line, kind, parts⟩ := n
    intro hmem
    cases kind with
    | importNames modules =>
      obtain ⟨i, module, hmodule, hbanned, rfl, rfl⟩ := mem_reportsAt_importNames.1 hmem
      exact ⟨.imported h hmodule hbanned, rfl⟩
    | importFrom level module? =>
      obtain ⟨module, rfl, hbanned, rfl, rfl⟩ := mem_reportsAt_importFrom.1 hmem
      exact ⟨.importedFrom h hbanned, rfl⟩
    | call positional =>
      obtain ⟨hdecode, rfl, rfl⟩ := mem_reportsAt_call.1 hmem
      obtain ⟨text, hconstant, htext⟩ := isBannedDecode_eq_true_iff.1 hdecode
      obtain ⟨_, _, _, _, _, hn, hfunction, hargument⟩ := decodeConstant?_eq_some_iff.1 hconstant
      cases hn
      exact ⟨.called h hfunction hargument htext, rfl⟩
    | _ => cases hmem
  · rintro ⟨hreports, rfl⟩
    cases hreports with
    | imported hnode hmodule hbanned =>
      cases h.symm.trans hnode
      exact mem_reportsAt_importNames.2 ⟨_, _, hmodule, hbanned, rfl, rfl⟩
    | importedFrom hnode hbanned =>
      cases h.symm.trans hnode
      exact mem_reportsAt_importFrom.2 ⟨_, rfl, hbanned, rfl, rfl⟩
    | called hnode hfunction hargument htext =>
      cases h.symm.trans hnode
      refine mem_reportsAt_call.2 ⟨isBannedDecode_eq_true_iff.2 ⟨_, ?_, htext⟩, rfl, rfl⟩
      exact decodeConstant?_eq_some_iff.2 ⟨_, _, _, _, _, rfl, hfunction, hargument⟩

theorem nodup_reportsAt (place : List Nat) (n : Node) :
    ((n.reportsAt place).map Prod.fst).Nodup := by
  rw [reportsAt]
  split
  · next modules _ =>
    -- the index in the statement tells its modules apart
    have hindex : ((modules.zipIdx.filter fun m => isBannedModule m.1).map Prod.snd).Nodup := by
      refine List.Nodup.sublist (List.filter_sublist.map Prod.snd) ?_
      rw [List.zipIdx_map_snd]
      exact List.nodup_range'
    have hmap := hindex.map (f := Occasion.imported place) fun a b hab => by
      cases hab
      rfl
    rw [List.map_map] at hmap ⊢
    exact hmap
  · split_ifs <;> simp
  · split <;> simp

theorem ownFindings_of_decodesLong (h : n.DecodesLong) : n.ownFindings = .error .longInteger := by
  rw [ownFindings, isBannedDecode_eq_error_iff.2 ⟨h, rfl⟩]
  rfl

/-- The findings of a node are those of its reports, wherever it stands. -/
theorem ownFindings_eq (h : ¬ n.DecodesLong) (place : List Nat) :
    n.ownFindings = .ok ((n.reportsAt place).map Prod.snd) := by
  obtain ⟨banned, hbanned⟩ : ∃ banned, n.isBannedDecode = .ok banned := by
    cases hdecode : n.isBannedDecode with
    | error e => exact absurd (isBannedDecode_eq_error_iff.1 hdecode).1 h
    | ok banned => exact ⟨banned, rfl⟩
  obtain ⟨line, kind, parts⟩ := n
  rw [ownFindings, reportsAt, hbanned]
  cases kind with
  | importNames modules =>
    cases hbanned
    have hfilter : (modules.zipIdx.filter fun m => isBannedModule m.1).map Prod.fst =
        modules.filter isBannedModule := by
      conv_rhs => rw [← List.zipIdx_map_fst 0 modules, List.filter_map]
      rfl
    simp [importedModules, ← hfilter, bind, Except.bind, pure, Except.pure, Function.comp_def]
  | importFrom level module? =>
    cases hbanned
    cases module? with
    | none => rfl
    | some module =>
      cases hmodule : isBannedModule module <;> simp [importedModules, hmodule]
  | _ => cases banned <;> rfl

theorem map_snd_reportsAt (place : List Nat) (n : Node) :
    (n.reportsAt place).map Prod.snd = (n.reportsAt []).map Prod.snd := by
  rw [reportsAt, reportsAt]
  split
  · simp [Function.comp_def]
  · split_ifs <;> rfl
  · split <;> rfl

/-! ## A whole tree -/

/-- What a tree is reported for. -/
def reported (root : Node) : List (Occasion × Finding) :=
  root.placed.flatMap fun p => p.2.reportsAt p.1

theorem mem_reported_iff : (o, f) ∈ root.reported ↔ root.Reports o f := by
  rw [reported, List.mem_flatMap]
  constructor
  · rintro ⟨⟨place, n⟩, hplaced, hmem⟩
    exact ((mem_reportsAt_iff (mem_placed_iff.1 hplaced)).1 hmem).1
  · intro hreports
    obtain ⟨n, hn⟩ : ∃ n, root.at? o.place = some n := by
      cases hreports with
      | imported hnode | importedFrom hnode | called hnode => exact ⟨_, hnode⟩
    exact ⟨(o.place, n), mem_placed_iff.2 hn, (mem_reportsAt_iff hn).2 ⟨hreports, rfl⟩⟩

theorem nodup_reported (root : Node) : (root.reported.map Prod.fst).Nodup := by
  have hdistinct := List.pairwise_map.1 root.nodup_places
  rw [reported, List.map_flatMap, List.nodup_flatMap]
  refine ⟨fun p _ => p.2.nodup_reportsAt p.1,
    hdistinct.imp_of_mem fun {p q} hp hq hne o hop hoq => hne ?_⟩
  -- an occasion tells its place
  obtain ⟨⟨o, f⟩, hmem, rfl⟩ := List.mem_map.1 hop
  obtain ⟨⟨o', f'⟩, hmem', ho⟩ := List.mem_map.1 hoq
  cases ho
  have hplace := ((mem_reportsAt_iff (mem_placed_iff.1 hp)).1 hmem).2
  rw [← hplace, ((mem_reportsAt_iff (mem_placed_iff.1 hq)).1 hmem').2]

theorem findings_eq (h : ∀ n ∈ root.breadthFirst, ¬ n.DecodesLong) :
    root.findings = .ok (root.breadthFirst.flatMap fun n => (n.reportsAt []).map Prod.snd) := by
  rw [findings, mapM_eq_ok_map fun n hn => ownFindings_eq (h n hn) [], List.flatMap_def]
  rfl

theorem findings_perm (root : Node) :
    (root.breadthFirst.flatMap fun n => (n.reportsAt []).map Prod.snd).Perm
      (root.reported.map Prod.snd) := by
  have hplaced : root.reported.map Prod.snd =
      (root.placed.map Prod.snd).flatMap fun n => (n.reportsAt []).map Prod.snd := by
    rw [reported, List.map_flatMap, List.flatMap_map]
    exact List.flatMap_congr fun p _ => map_snd_reportsAt p.1 p.2
  rw [hplaced]
  exact root.breadthFirst_perm_placed.flatMap_right _

theorem mem_breadthFirst_iff : n ∈ root.breadthFirst ↔ ∃ place, root.at? place = some n := by
  rw [root.breadthFirst_perm_placed.mem_iff, List.mem_map]
  simp [mem_placed_iff]

theorem holdsLongDecode_iff : root.HoldsLongDecode ↔ ∃ n ∈ root.breadthFirst, n.DecodesLong := by
  constructor
  · rintro ⟨place, line, positional, function, argument, rest, k, hnode, hfunction, hargument,
      hlong⟩
    refine ⟨_, mem_breadthFirst_iff.2 ⟨place, hnode⟩, k, ?_, hlong⟩
    exact decodeConstant?_eq_some_iff.2 ⟨_, _, _, _, _, rfl, hfunction, hargument⟩
  · rintro ⟨n, hn, k, hconstant, hlong⟩
    obtain ⟨place, hnode⟩ := mem_breadthFirst_iff.1 hn
    obtain ⟨line, positional, function, argument, rest, rfl, hfunction, hargument⟩ :=
      decodeConstant?_eq_some_iff.1 hconstant
    exact ⟨place, line, positional, function, argument, rest, k, hnode, hfunction, hargument, hlong⟩

theorem findings_of_holdsLongDecode (h : root.HoldsLongDecode) :
    root.findings = .error .longInteger := by
  obtain ⟨n, hn, hlong⟩ := holdsLongDecode_iff.1 h
  have hrefused : ∃ n ∈ root.breadthFirst, ∀ found, n.ownFindings ≠ .ok found :=
    ⟨n, hn, by simp [ownFindings_of_decodesLong hlong]⟩
  obtain ⟨before, first, after, e, hsplit, hbefore, hfirst⟩ := exists_first_error hrefused
  have he : e = .longInteger := by
    by_cases hfault : first.DecodesLong
    · rw [ownFindings_of_decodesLong hfault] at hfirst
      cases hfirst
      rfl
    · rw [ownFindings_eq hfault []] at hfirst
      cases hfirst
  rw [findings, hsplit, mapM_of_first_error hbefore hfirst, he]
  rfl

theorem exists_findings_of_not_holdsLongDecode (h : ¬ root.HoldsLongDecode) :
    ∃ found, root.findings = .ok found ∧ ListsEachOnce root.Reports found := by
  have hnone : ∀ n ∈ root.breadthFirst, ¬ n.DecodesLong :=
    fun n hn hlong => h (holdsLongDecode_iff.2 ⟨n, hn, hlong⟩)
  exact ⟨_, findings_eq hnone, root.reported, root.nodup_reported, fun o f => mem_reported_iff,
    root.findings_perm⟩

theorem listsEachOnce_of_findings {found : List Finding} (h : root.findings = .ok found) :
    ListsEachOnce root.Reports found := by
  by_cases hlong : root.HoldsLongDecode
  · cases h.symm.trans (findings_of_holdsLongDecode hlong)
  · obtain ⟨found', hfound', hlists⟩ := exists_findings_of_not_holdsLongDecode hlong
    cases h.symm.trans hfound'
    exact hlists

end Node

theorem checkSource_eq_findings {source : List Char} {tree : Node} (hnul : '\x00' ∉ source)
    (h : parse? source = some tree) : checkSource source = tree.findings := by
  rw [checkSource, if_neg (by simpa using hnul), h]

/-- A program that can be parsed is reported for each alias of a banned module, each import from a
banned module and each call that decodes from a banned encoding once, and for nothing else: the walk
through its tree visits what the recursion over the tree visits. Only a call of `decode` for an
integer with too many digits breaks the check off. -/
theorem checkSource_reports_each_once {source : List Char} {tree : Node} (hnul : '\x00' ∉ source)
    (h : parse? source = some tree) :
    tree.breadthFirst.Perm tree.preorder ∧
    (checkSource source = .error .longInteger ↔ tree.HoldsLongDecode) ∧
    (¬ tree.HoldsLongDecode →
      ∃ found, checkSource source = .ok found ∧ ListsEachOnce tree.Reports found) := by
  rw [checkSource_eq_findings hnul h]
  refine ⟨tree.breadthFirst_perm_preorder, ⟨fun hlong => ?_, Node.findings_of_holdsLongDecode⟩,
    Node.exists_findings_of_not_holdsLongDecode⟩
  by_contra hnone
  obtain ⟨found, hfound, -⟩ := Node.exists_findings_of_not_holdsLongDecode hnone
  cases hfound.symm.trans hlong

/-- A program with an alias, a call inside the receiver of a call, and names that only look
banned. -/
def nestedProgram : List Char :=
  "import shlexer, my.shlex, pipes.q\ndef f():\n  g(a.decode('Latin-1').b())\n".toList

theorem checkSource_reports_each_once_nested :
    '\x00' ∉ nestedProgram ∧ ∃ tree, parse? nestedProgram = some tree ∧
      ∃ found, checkSource nestedProgram = .ok found ∧ ListsEachOnce tree.Reports found ∧
        found = [importFinding 1 ["pipes", "q"], decodeFinding 3] := by
  have hnul : '\x00' ∉ nestedProgram := by decide
  have hparse : (parse? nestedProgram).isSome = true := by decide +kernel
  have hcheck : checkSource nestedProgram =
      .ok [importFinding 1 ["pipes", "q"], decodeFinding 3] := by decide +kernel
  obtain ⟨tree, htree⟩ := Option.isSome_iff_exists.1 hparse
  obtain ⟨-, hlong, hfound⟩ := checkSource_reports_each_once hnul htree
  obtain ⟨found, hok, hlists⟩ := hfound fun h => by
    cases hcheck.symm.trans (hlong.2 h)
  refine ⟨hnul, tree, htree, found, hok, hlists, ?_⟩
  cases hcheck.symm.trans hok
  rfl

/-- A call of `decode` for an integer of as many hexadecimal digits. -/
def decodeOfDigits (count : Nat) : List Char :=
  "x.decode(0x".toList ++ List.replicate count 'f' ++ [')']

theorem nul_notMem_decodeOfDigits : '\x00' ∉ decodeOfDigits 3600 := by decide +kernel

theorem exists_tree_decodeOfDigits :
    ∃ tree, parse? (decodeOfDigits 3600) = some tree ∧
      (∀ n ∈ tree.preorder, n.kind.isImport = false) ∧ tree.findings = .error .longInteger := by
  have hparse : (parse? (decodeOfDigits 3600)).any (fun tree =>
      (tree.preorder.all fun n => !n.kind.isImport) &&
        decide (tree.findings = .error .longInteger)) = true := by decide +kernel
  obtain ⟨tree, htree, hboth⟩ := Option.any_eq_true _ _ |>.1 hparse
  rw [Bool.and_eq_true, List.all_eq_true, decide_eq_true_eq] at hboth
  exact ⟨tree, htree, fun n hn => by simpa using hboth.1 n hn, hboth.2⟩

/-- A program that can be parsed, with no imports and no decoding from Latin-1, for which there is
no list of findings, not even an empty one: its integer is too long. -/
theorem not_reports_each_once_long_integer :
    '\x00' ∉ decodeOfDigits 3600 ∧ ∃ tree, parse? (decodeOfDigits 3600) = some tree ∧
      (∀ n ∈ tree.preorder, n.kind.isImport = false) ∧
      ∀ found, checkSource (decodeOfDigits 3600) ≠ .ok found := by
  obtain ⟨tree, htree, himports, hfindings⟩ := exists_tree_decodeOfDigits
  refine ⟨nul_notMem_decodeOfDigits, tree, htree, himports, fun found hfound => ?_⟩
  rw [checkSource_eq_findings nul_notMem_decodeOfDigits htree, hfindings] at hfound
  cases hfound

end ShellWord.StyleCheck
