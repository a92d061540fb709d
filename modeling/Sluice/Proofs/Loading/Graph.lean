import Mathlib.Logic.Relation
import Sluice.Proofs.Loading.Includes

/-!
# The include graph

A file may be read as a document or as a list of steps, so the nodes of the graph are files with the
way they are read.  The files that lead to one another, however they are read, are a graph too.

* `reaches_of_load_eq_includeCycle` — a file reported as a cycle reaches itself;
* `Expanded.mem_iff` — the files that are opened are the start and the ones that it reaches;
* `Expanded.not_transGen_leads` — if loading succeeds, no file leads to itself.
-/

namespace Sluice

open Config Relation

/-- A file, and how it is read. -/
structure Node where
  reading : Reading
  file : Location

/-- Whether a file that is read in some way has an include that leads to another one. -/
def FileTree.Includes (tree : FileTree) (a b : Node) : Prop :=
  ∃ items target, tree.documentAt? a.file = some (.list items) ∧
    (b.reading, target) ∈ targets a.reading items ∧
    tree.target? (FileTree.directoryOf a.file) target = some b.file

/-- Whether a file is reached from a start and has an include, as it is read there, that leads to
another one. -/
def FileTree.Leads (tree : FileTree) (start a b : Location) : Prop :=
  ∃ r r', ReflTransGen tree.Includes ⟨.entries, start⟩ ⟨r, a⟩ ∧ tree.Includes ⟨r, a⟩ ⟨r', b⟩

namespace Config

variable {tree : FileTree} {known : String → Bool} {path : String}

/-! ## A cycle that is reported -/

/-- An include that closes a cycle leads to a file that reaches itself.  Every file on the stack is
reached from the root and reaches the node whose includes are read. -/
theorem reaches_of_closes {root : Node} {file : Location} {stack : List Location}
    {directory : String} {ts : List Target} (h : Closes tree file stack directory ts) {a : Node}
    (hroot : ReflTransGen tree.Includes root a)
    (hedges : ∀ t ∈ ts, ∀ b, tree.target? directory t.2 = some b → tree.Includes a ⟨t.1, b⟩)
    (hstack : ∀ b ∈ stack, ∃ r, ReflTransGen tree.Includes root ⟨r, b⟩ ∧
      ReflTransGen tree.Includes ⟨r, b⟩ a) :
    ∃ r r', ReflTransGen tree.Includes root ⟨r, file⟩ ∧
      TransGen tree.Includes ⟨r, file⟩ ⟨r', file⟩ := by
  induction h generalizing a with
  | @here stack directory ts reading target mem target_eq reads =>
    obtain ⟨r, hb, hba⟩ := hstack file reads
    exact ⟨r, reading, hb, .tail' hba (hedges _ mem file target_eq)⟩
  | @through stack directory ts reading target next items mem target_eq document_eq _ ih =>
    have hnext : tree.Includes a ⟨reading, next⟩ := hedges _ mem next target_eq
    refine ih (hroot.tail hnext) ?_ ?_
    · intro t ht b hb
      exact ⟨items, t.2, document_eq, ht, hb⟩
    · intro b hb
      obtain rfl | hb := List.mem_cons.1 hb
      · exact ⟨reading, hroot.tail hnext, .refl⟩
      · obtain ⟨r, hrootb, hba⟩ := hstack b hb
        exact ⟨r, hrootb, hba.tail hnext⟩

theorem reaches_of_load_eq_includeCycle {file : Location}
    (h : load tree known path = .error (.includeCycle file)) :
    ∃ start r r', tree.locate path = .ok start ∧
      ReflTransGen tree.Includes ⟨.entries, start⟩ ⟨r, file⟩ ∧
      TransGen tree.Includes ⟨r, file⟩ ⟨r', file⟩ := by
  obtain ⟨start, items, hstart, hdocument, hcloses⟩ := closes_of_load h
  obtain ⟨r, r', hreach, hcycle⟩ := reaches_of_closes hcloses (.refl (a := ⟨.entries, start⟩))
    (fun t ht b hb => ⟨items, t.2, hdocument, ht, hb⟩)
    (fun b hb => by
      obtain rfl := List.mem_singleton.1 hb
      exact ⟨.entries, .refl, .refl⟩)
  exact ⟨start, r, r', hstart, hreach, hcycle⟩

/-! ## The graph that has been followed -/

/-- A node whose includes have been followed, and the files that were opened for it. -/
def Expanded (tree : FileTree) (stack : List Location) (a : Node) (opened : List Opening) : Prop :=
  ∃ items, tree.documentAt? a.file = some (.list items) ∧
    Followed tree (a.file :: stack) (FileTree.directoryOf a.file) (targets a.reading items) opened

/-- A file with a list without an `init` block. -/
def Plain (tree : FileTree) (file : Location) : Prop :=
  ∀ items, tree.documentAt? file = some (.list items) → NoInit items

theorem expanded_of_mem {stack : List Location} {directory : String} {ts : List Target}
    {opened : List Opening} (h : Followed tree stack directory ts opened) {t : Target}
    (ht : t ∈ ts) :
    ∃ file inner, tree.target? directory t.2 = some file ∧ file ∉ stack ∧
      (t.1 = .entries → Plain tree file) ∧ Expanded tree stack ⟨t.1, file⟩ inner ∧
      ∀ o ∈ ⟨file, stack.length⟩ :: inner, o ∈ opened := by
  induction h with
  | nil => cases ht
  | @cons stack directory reading target file items more inner outer target_eq fresh document_eq
      plain below after _ ih =>
    obtain rfl | ht := List.mem_cons.1 ht
    · refine ⟨file, inner, target_eq, fresh, ?_, ⟨items, document_eq, below⟩, ?_⟩
      · intro hreading items' hitems'
        rw [document_eq] at hitems'
        cases hitems'
        exact plain hreading
      · intro o ho
        exact List.mem_append_left _ ho
    · obtain ⟨file', inner', htarget, hfresh, hplain, hexpanded, hopened⟩ := ih ht
      exact ⟨file', inner', htarget, hfresh, hplain, hexpanded,
        fun o ho => List.mem_append_right _ (hopened o ho)⟩

theorem Expanded.includes {stack : List Location} {a b : Node} {opened : List Opening}
    (h : Expanded tree stack a opened) (hab : tree.Includes a b) :
    ∃ inner, b.file ∉ a.file :: stack ∧ (b.reading = .entries → Plain tree b.file) ∧
      Expanded tree (a.file :: stack) b inner ∧
      ∀ o ∈ ⟨b.file, stack.length + 1⟩ :: inner, o ∈ opened := by
  obtain ⟨items, hdocument, hfollowed⟩ := h
  obtain ⟨items', target, hdocument', ht, htarget⟩ := hab
  rw [hdocument] at hdocument'
  cases hdocument'
  obtain ⟨file, inner, htarget', hfresh, hplain, hexpanded, hopened⟩ := expanded_of_mem hfollowed ht
  rw [htarget] at htarget'
  cases htarget'
  exact ⟨inner, hfresh, hplain, hexpanded, hopened⟩

/-- Whatever a followed node reaches is another file, which has been opened and followed too. -/
theorem Expanded.reaches {stack : List Location} {a b : Node} {opened : List Opening}
    (h : Expanded tree stack a opened) (hab : TransGen tree.Includes a b) :
    b.file ∉ a.file :: stack ∧ (b.reading = .entries → Plain tree b.file) ∧
      (∃ depth, ⟨b.file, depth⟩ ∈ opened) ∧ ∃ stack' inner, Expanded tree stack' b inner := by
  induction hab using TransGen.head_induction_on generalizing stack opened with
  | single hab =>
    obtain ⟨inner, hfresh, hplain, hexpanded, hopened⟩ := h.includes hab
    exact ⟨hfresh, hplain, ⟨_, hopened _ List.mem_cons_self⟩, _, inner, hexpanded⟩
  | head hac _ ih =>
    obtain ⟨inner, -, -, hexpanded, hopened⟩ := h.includes hac
    obtain ⟨hfresh, hplain, ⟨depth, hdepth⟩, hb⟩ := ih hexpanded
    exact ⟨fun hmem => hfresh (List.mem_cons_of_mem _ hmem), hplain,
      ⟨depth, hopened _ (List.mem_cons_of_mem _ hdepth)⟩, hb⟩

/-- Whatever has been opened for a node is reached from it. -/
theorem reaches_of_mem {stack : List Location} {directory : String} {ts : List Target}
    {opened : List Opening} (h : Followed tree stack directory ts opened) {a : Node}
    (hedges : ∀ t ∈ ts, ∀ b, tree.target? directory t.2 = some b → tree.Includes a ⟨t.1, b⟩)
    {o : Opening} (ho : o ∈ opened) : ∃ r, TransGen tree.Includes a ⟨r, o.file⟩ := by
  induction h generalizing a with
  | nil => cases ho
  | @cons stack directory reading target file items more inner outer target_eq fresh document_eq
      plain below after ihBelow ihAfter =>
    have hfile : tree.Includes a ⟨reading, file⟩ := hedges _ List.mem_cons_self file target_eq
    obtain ho | ho := List.mem_append.1 ho
    · obtain rfl | ho := List.mem_cons.1 ho
      · exact ⟨reading, .single hfile⟩
      · obtain ⟨r, hr⟩ := ihBelow (a := ⟨reading, file⟩)
          (fun t ht b hb => ⟨items, t.2, document_eq, ht, hb⟩) ho
        exact ⟨r, .head hfile hr⟩
    · exact ihAfter (fun t ht => hedges t (List.mem_cons_of_mem _ ht)) ho

/-- The root of a file that is loaded has been followed. -/
theorem expanded_of_load {c : Config} {openings : List Opening}
    (h : load tree known path = .ok (c, openings)) :
    ∃ start opened, tree.locate path = .ok start ∧ openings = ⟨start, 0⟩ :: opened ∧
      Expanded tree [] ⟨.entries, start⟩ opened := by
  obtain ⟨start, items, opened, hstart, hdocument, hopenings, hfollowed⟩ := followed_of_load h
  exact ⟨start, opened, hstart, hopenings, items, hdocument, hfollowed⟩

/-- The files that are opened for a node are the node's own and those that it reaches. -/
theorem Expanded.mem_iff {a : Node} {opened : List Opening} (h : Expanded tree [] a opened)
    (file : Location) :
    file ∈ (⟨a.file, 0⟩ :: opened).map Opening.file ↔
      ∃ r, ReflTransGen tree.Includes a ⟨r, file⟩ := by
  rw [List.map_cons, List.mem_cons, List.mem_map]
  constructor
  · rintro (rfl | ⟨o, ho, rfl⟩)
    · exact ⟨a.reading, .refl⟩
    · obtain ⟨items, hdocument, hfollowed⟩ := h
      obtain ⟨r, hr⟩ := reaches_of_mem hfollowed
        (fun t ht b hb => ⟨items, t.2, hdocument, ht, hb⟩) ho
      exact ⟨r, hr.to_reflTransGen⟩
  · rintro ⟨r, hr⟩
    obtain heq | hr := reflTransGen_iff_eq_or_transGen.1 hr
    · left
      rw [← heq]
    · obtain ⟨-, -, ⟨depth, hdepth⟩, -⟩ := h.reaches hr
      exact .inr ⟨_, hdepth, rfl⟩

/-! ## No file leads to itself -/

theorem mem_stepsTargets {items : List Json} {t : Target} :
    t ∈ stepsTargets items ↔ ∃ item ∈ items, t ∈ stepTargets item := by
  induction items with
  | nil => simp [stepsTargets]
  | cons item rest ih => simp [stepsTargets, ih]

/-- Without an `init` block an entry leads to the same places as a document and as a step. -/
theorem exists_mem_entryTargets_iff {item : Json} {target : Json}
    (h : ∀ fields, item = .map fields → Fields.get? "include" fields = none →
      Fields.get? "init" fields = none) :
    (∃ s, (s, target) ∈ entryTargets item) ↔ ∃ s, (s, target) ∈ stepTargets item := by
  cases item with
  | map fields =>
    rw [entryTargets, stepTargets]
    cases hinclude : Fields.get? "include" fields with
    | some target' => simp
    | none => rw [h fields rfl hinclude]
  | _ => simp [entryTargets, stepTargets]

theorem exists_mem_targets_iff {items : List Json} (h : NoInit items) {target : Json} :
    (∃ s, (s, target) ∈ targets .entries items) ↔ ∃ s, (s, target) ∈ targets .steps items := by
  have hitem : ∀ item ∈ items,
      (∃ s, (s, target) ∈ entryTargets item) ↔ ∃ s, (s, target) ∈ stepTargets item := by
    intro item hmem
    refine exists_mem_entryTargets_iff ?_
    rintro fields rfl
    exact h fields hmem
  simp only [targets, List.mem_flatMap, mem_stepsTargets]
  constructor
  · rintro ⟨s, item, hmem, hs⟩
    obtain ⟨s', hs'⟩ := (hitem item hmem).1 ⟨s, hs⟩
    exact ⟨s', item, hmem, hs'⟩
  · rintro ⟨s, item, hmem, hs⟩
    obtain ⟨s', hs'⟩ := (hitem item hmem).2 ⟨s, hs⟩
    exact ⟨s', item, hmem, hs'⟩

/-- A file without an `init` block leads to the same files however it is read. -/
theorem includes_of_plain {file : Location} (h : Plain tree file) {r r' : Reading} {b : Node}
    (hb : tree.Includes ⟨r, file⟩ b) : ∃ s, tree.Includes ⟨r', file⟩ ⟨s, b.file⟩ := by
  obtain ⟨items, target, hdocument, ht, htarget⟩ := hb
  have hiff : (∃ s, (s, target) ∈ targets .entries items) ↔
      ∃ s, (s, target) ∈ targets .steps items :=
    exists_mem_targets_iff (h items hdocument)
  have hs : ∃ s, (s, target) ∈ targets r' items := by
    cases r with
    | entries =>
      cases r' with
      | entries => exact ⟨_, ht⟩
      | steps => exact hiff.1 ⟨_, ht⟩
    | steps =>
      cases r' with
      | entries => exact hiff.2 ⟨_, ht⟩
      | steps => exact ⟨_, ht⟩
  obtain ⟨s, hs⟩ := hs
  exact ⟨s, items, target, hdocument, hs, htarget⟩

section Acyclic

variable {start : Location} {opened : List Opening}

/-- The start has no other way to be read, and another file that is read in both ways is plain. -/
theorem Expanded.includes_of_reaches (h : Expanded tree [] ⟨.entries, start⟩ opened)
    {r r' : Reading} {file : Location} {b : Node}
    (hr : ReflTransGen tree.Includes ⟨.entries, start⟩ ⟨r, file⟩)
    (hr' : ReflTransGen tree.Includes ⟨.entries, start⟩ ⟨r', file⟩)
    (hb : tree.Includes ⟨r, file⟩ b) : ∃ s, tree.Includes ⟨r', file⟩ ⟨s, b.file⟩ := by
  by_cases heq : r = r'
  · subst heq
    exact ⟨b.reading, hb⟩
  obtain heq₁ | hr := reflTransGen_iff_eq_or_transGen.1 hr
  · obtain heq₂ | hr' := reflTransGen_iff_eq_or_transGen.1 hr'
    · cases heq₁
      cases heq₂
      exact absurd rfl heq
    · cases heq₁
      exact absurd List.mem_cons_self (h.reaches hr').1
  · obtain heq₂ | hr' := reflTransGen_iff_eq_or_transGen.1 hr'
    · cases heq₂
      exact absurd List.mem_cons_self (h.reaches hr).1
    · have hplain : Plain tree file := by
        cases r with
        | entries => exact (h.reaches hr).2.1 rfl
        | steps =>
          cases r' with
          | entries => exact (h.reaches hr').2.1 rfl
          | steps => exact absurd rfl heq
      exact includes_of_plain hplain hb

/-- A way from file to file is a way from node to node, in whatever way the first file is read. -/
theorem Expanded.transGen_of_leads (h : Expanded tree [] ⟨.entries, start⟩ opened)
    {a b : Location} (hab : TransGen (tree.Leads start) a b) {r : Reading}
    (hr : ReflTransGen tree.Includes ⟨.entries, start⟩ ⟨r, a⟩) :
    ∃ s, TransGen tree.Includes ⟨r, a⟩ ⟨s, b⟩ := by
  induction hab with
  | single hab =>
    obtain ⟨r₁, s, hr₁, hs⟩ := hab
    obtain ⟨s', hs'⟩ := h.includes_of_reaches hr₁ hr hs
    exact ⟨s', .single hs'⟩
  | tail _ hbc ih =>
    obtain ⟨s, hs⟩ := ih
    obtain ⟨r₁, t, hr₁, ht⟩ := hbc
    obtain ⟨t', ht'⟩ := h.includes_of_reaches hr₁ (hr.trans hs.to_reflTransGen) ht
    exact ⟨t', hs.tail ht'⟩

theorem Expanded.not_transGen_leads (h : Expanded tree [] ⟨.entries, start⟩ opened)
    (file : Location) : ¬ TransGen (tree.Leads start) file file := by
  intro hcycle
  obtain ⟨b, hfirst, -⟩ := TransGen.head'_iff.1 hcycle
  obtain ⟨r, -, hr, -⟩ := hfirst
  obtain ⟨s, hs⟩ := h.transGen_of_leads hcycle hr
  obtain heq | hstart := reflTransGen_iff_eq_or_transGen.1 hr
  · cases heq
    exact (h.reaches hs).1 List.mem_cons_self
  · obtain ⟨-, -, -, stack, inner, hfile⟩ := h.reaches hstart
    exact (hfile.reaches hs).1 List.mem_cons_self

end Acyclic

end Config

end Sluice
