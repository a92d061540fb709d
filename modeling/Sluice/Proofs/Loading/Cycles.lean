import Mathlib.Data.List.Perm.Subperm
import Sluice.Proofs.Loading.Graph
import Sluice.Proofs.Loading.Stack

/-!
# Loading ends

A loader with a stack goes along with `Config.load`, which has the stack as an argument, as long as
it has a level for every file that is not being read (`mirrors_loadFile`).  So it ends on every file
tree, and no stack it ever has holds a file twice.  With the include graph this settles what cycles
there are: `load_terminates`.
-/

namespace Sluice

open Config Relation

/-- A stack of different files of a tree. -/
structure Sound (tree : FileTree) (stack : List Location) : Prop where
  nodup : stack.Nodup
  files : stack ⊆ tree.locations

theorem Sound.length_le {tree : FileTree} {stack : List Location} (h : Sound tree stack) :
    stack.length ≤ tree.files.length := by
  have hle := (h.nodup.subperm h.files).length_le
  rwa [FileTree.locations, List.length_map] at hle

/-- How a loader with a stack goes along with a reading that has the stack as an argument: every
stack it makes is sound, and it ends with the same error or with a result and a stack of which
something is known. -/
def Mirrors {α β : Type} (tree : FileTree) (stack : List Location) (x : Loading α) (y : Stacked β)
    (post : α → β → List Location → Prop) : Prop :=
  ∀ o history, ∃ l more, l.history = history ++ more ∧ (∀ p ∈ more, Sound tree p.stack) ∧
    ((∃ e, x.run o = .error e ∧ y.run ⟨stack, history⟩ = (some (.error e), l)) ∨
      ∃ a b, x.run o = .ok (a, o ++ more.map Push.opening) ∧
        y.run ⟨stack, history⟩ = (some (.ok b), l) ∧ post a b l.stack)

namespace Mirrors

variable {tree : FileTree} {α β γ δ : Type} {stack : List Location} {x : Loading α} {y : Stacked β}
  {post : α → β → List Location → Prop}

theorem pure {a : α} {b : β} (h : post a b stack) :
    Mirrors tree stack (Pure.pure a) (Pure.pure b) post := by
  intro o history
  refine ⟨⟨stack, history⟩, [], by simp, by simp, .inr ⟨a, b, ?_, rfl, h⟩⟩
  rw [Loading.run_pure, List.map_nil, List.append_nil]

theorem refuse (position : Position) (flaw : DocumentFlaw) :
    Mirrors tree stack (position.refuse flaw) (position.refuse flaw) post := by
  intro o history
  exact ⟨⟨stack, history⟩, [], by simp, by simp, .inl ⟨_, rfl, rfl⟩⟩

theorem bind {f : α → Loading γ} {g : β → Stacked δ} {post' : γ → δ → List Location → Prop}
    (h : Mirrors tree stack x y post)
    (hf : ∀ a b stack', post a b stack' → Mirrors tree stack' (f a) (g b) post') :
    Mirrors tree stack (x >>= f) (y >>= g) post' := by
  intro o history
  obtain ⟨l, more, hhistory, hsound, ⟨e, hx, hy⟩ | ⟨a, b, hx, hy, hpost⟩⟩ := h o history
  · refine ⟨l, more, hhistory, hsound, .inl ⟨e, Loading.run_bind_eq_error.2 (.inl hx), ?_⟩⟩
    rw [Stacked.run_bind, hy]
  · obtain ⟨l', more', hhistory', hsound', hrun⟩ := hf a b l.stack hpost
      (o ++ more.map Push.opening) l.history
    refine ⟨l', more ++ more', ?_, ?_, ?_⟩
    · rw [hhistory', hhistory, List.append_assoc]
    · intro p hp
      exact (List.mem_append.1 hp).elim (hsound p) (hsound' p)
    · rw [Stacked.run_bind, hy]
      obtain ⟨e, hf, hg⟩ | ⟨c, d, hf, hg, hpost'⟩ := hrun
      · exact .inl ⟨e, Loading.run_bind_eq_error.2 (.inr ⟨a, _, hx, hf⟩), hg⟩
      · refine .inr ⟨c, d, ?_, hg, hpost'⟩
        rw [List.map_append, ← List.append_assoc]
        exact Loading.run_bind_eq_ok.2 ⟨a, _, hx, hf⟩

end Mirrors

/-- A loader with a stack goes along and leaves the stack as it found it. -/
def Simulates (tree : FileTree) (stack : List Location) (α : Type) (_ : List Target) (x : Loading α)
    (y : Stacked α) : Prop :=
  Mirrors tree stack x y fun a b stack' => a = b ∧ stack' = stack

theorem carries_simulates (tree : FileTree) (stack : List Location) :
    Carries (Simulates tree stack) where
  pure a := Mirrors.pure ⟨rfl, rfl⟩
  bind first rest := by
    refine Mirrors.bind first ?_
    rintro a b stack' ⟨rfl, rfl⟩
    exact rest a
  refuse ts position flaw := Mirrors.refuse position flaw

/-- What is read between the opening of a file and the taking off. -/
theorem Simulates.inside {tree : FileTree} {file : Location} {stack : List Location} {α β : Type}
    {ts : List Target} {x : Loading α} {y : Stacked α} (h : Simulates tree (file :: stack) α ts x y)
    (f : α → β) :
    Mirrors tree (file :: stack) (do return f (← x)) (do let a ← y; Stacked.pop; return f a)
      fun a b stack' => a = b ∧ stack' = stack := by
  refine Mirrors.bind h ?_
  rintro a b stack' ⟨rfl, rfl⟩ o history
  refine ⟨⟨stack, history⟩, [], by simp, by simp, .inr ⟨f a, f a, ?_, rfl, rfl, rfl⟩⟩
  rw [Loading.run_pure, List.map_nil, List.append_nil]

/-! ## Includes -/

section Files

variable {tree : FileTree} {source : Source}

theorem Source.Opened.sound {opened : source.Opened tree} {path : String}
    (hopen : source.openFile tree path = .ok opened) (hsound : Sound tree source.stack) :
    Sound tree opened.source.stack := by
  obtain ⟨file, -, hfresh, hdocument, hsource, -⟩ := Source.openFile_eq_ok hopen
  rw [hsource]
  exact ⟨List.nodup_cons.2 ⟨hfresh, hsound.nodup⟩,
    List.cons_subset.2 ⟨FileTree.mem_locations_of_documentAt? hdocument, hsound.files⟩⟩

/-- What follows the opening of a file goes along if it does so with the file on the stack. -/
theorem mirrors_openFile {γ δ : Type} (hsound : Sound tree source.stack) (path : String)
    {f : source.Opened tree → Loading γ} {g : Json × Origin → Stacked δ}
    {post : γ → δ → List Location → Prop}
    (hf : ∀ opened file, opened.source.stack = file :: source.stack →
      Sound tree opened.source.stack → Mirrors tree opened.source.stack (f opened)
        (g (opened.document, opened.source.origin)) post) :
    Mirrors tree source.stack
      (do
        let o ← StateT.lift (source.openFile tree path)
        modify (· ++ [o.opening])
        f o)
      (Stacked.openFile tree path >>= g) post := by
  intro o history
  cases hopen : source.openFile tree path with
  | error e =>
    refine ⟨⟨source.stack, history⟩, [], by simp, by simp, .inl ⟨e, rfl, ?_⟩⟩
    rw [Stacked.run_bind, Stacked.run_openFile, hopen]
  | ok opened =>
    have hopened := Source.Opened.sound hopen hsound
    obtain ⟨file, -, -, -, hsource, hopening⟩ := Source.openFile_eq_ok hopen
    obtain ⟨document, included, opening, fewer⟩ := opened
    obtain rfl : included = ⟨path, FileTree.directoryOf file, file :: source.stack⟩ := hsource
    obtain rfl : opening = ⟨file, source.stack.length⟩ := hopening
    -- the rest starts with the file on the stack, and that stack is the next one in the history
    obtain ⟨l, more, hhistory, hmore, hrun⟩ := hf _ file rfl hopened
      (o ++ [⟨file, source.stack.length⟩]) (history ++ [⟨file, source.stack⟩])
    refine ⟨l, ⟨file, source.stack⟩ :: more, by simp [hhistory], ?_, ?_⟩
    · intro p hp
      obtain rfl | hp := List.mem_cons.1 hp
      · exact hopened
      · exact hmore p hp
    · rw [Stacked.run_bind, Stacked.run_openFile, hopen, List.map_cons, List.append_cons]
      exact hrun

theorem mirrors_follow (hsound : Sound tree source.stack) (target : Json) (position : Position) :
    Mirrors tree source.stack (source.follow tree target position)
      (Stacked.follow tree source.origin target position) fun i r stack' =>
        r = (i.items, i.source.origin) ∧ stack' = i.source.stack ∧ Sound tree i.source.stack ∧
          ∃ file, i.source.stack = file :: source.stack := by
  cases target with
  | string path =>
    refine mirrors_openFile hsound _ fun opened file hstack hopened => ?_
    obtain ⟨document, included, opening, fewer⟩ := opened
    cases document with
    | list items => exact Mirrors.pure ⟨rfl, rfl, hopened, file, hstack⟩
    | _ =>
      intro o history
      exact ⟨_, [], List.append_nil _ ▸ rfl, by simp, .inl ⟨_, rfl, rfl⟩⟩
  | _ => exact Mirrors.refuse position .includeNotPath

/-- With a level for every file that is not being read, an include is expanded like one with the
stack as an argument.  The induction is on the levels: an include that is followed takes one, and
one file. -/
theorem simulates_stepsOf (known : String → Bool) (levels : Nat) {source : Source}
    (hsound : Sound tree source.stack) (hlevels : source.unread tree ≤ levels) :
    Splices (Simulates tree source.stack) .steps (Config.stepsOf tree known source)
      (Stacked.stepsOf tree known levels source.origin) := by
  induction levels generalizing source with
  | zero =>
    intro target position
    rw [Config.stepsOf]
    refine Mirrors.bind (mirrors_follow hsound target position) fun i r stack' _ => ?_
    have hfewer := i.fewer
    omega
  | succ levels ih =>
    intro target position
    rw [Config.stepsOf]
    refine Mirrors.bind (mirrors_follow hsound target position) ?_
    rintro i r stack' ⟨rfl, rfl, hincluded, file, hstack⟩
    have hfewer := i.fewer
    have hsteps := (carries_simulates tree i.source.stack).readSteps known (ih hincluded (by omega))
      i.source.root 0 i.items
    rw [← bind_pure (readSteps _ _ _ _ _)]
    rw [hstack] at hsteps ⊢
    exact hsteps.inside id

theorem simulates_pipesOf (known : String → Bool) (levels : Nat) {source : Source}
    (hsound : Sound tree source.stack) (hlevels : source.unread tree ≤ levels) :
    Splices (Simulates tree source.stack) .entries (Config.pipesOf tree known source)
      (Stacked.pipesOf tree known levels source.origin) := by
  induction levels generalizing source with
  | zero =>
    intro target position
    rw [Config.pipesOf]
    refine Mirrors.bind (mirrors_follow hsound target position) fun i r stack' _ => ?_
    have hfewer := i.fewer
    omega
  | succ levels ih =>
    intro target position
    rw [Config.pipesOf]
    refine Mirrors.bind (mirrors_follow hsound target position) ?_
    rintro i r stack' ⟨rfl, rfl, hincluded, file, hstack⟩
    have hfewer := i.fewer
    have hentries := (carries_simulates tree i.source.stack).readEntries known
      (simulates_stepsOf known levels hincluded (by omega)) (ih hincluded (by omega)) false
      i.source.root 0 i.items
    rw [hstack] at hentries ⊢
    exact hentries.inside Config.pipes

theorem simulates_ofDocument (known : String → Bool) (levels : Nat)
    (hsound : Sound tree source.stack)
    (hlevels : source.unread tree ≤ levels) (document : Json) :
    Mirrors tree source.stack (Config.ofDocument tree known source document)
      (Stacked.ofDocument tree known levels source.origin document) fun c c' stack' =>
        c = c' ∧ stack' = source.stack := by
  cases document with
  | list entries =>
    exact (carries_simulates tree source.stack).readEntries known
      (simulates_stepsOf known levels hsound hlevels)
      (simulates_pipesOf known levels hsound hlevels) true source.root 0 entries
  | _ => exact Mirrors.refuse source.root .topNotList

theorem mirrors_loadFile (known : String → Bool) (path : String) (levels : Nat)
    (hlevels : tree.files.length ≤ levels) :
    Mirrors tree [] (Config.readFile tree known path) (Stacked.loadFile tree known path levels)
      fun c c' stack => c = c' ∧ stack = [] := by
  have hsound : Sound tree (Source.mk path "" []).stack := ⟨.nil, List.nil_subset _⟩
  have hunread : Source.unread tree ⟨path, "", []⟩ ≤ levels := by
    refine Nat.le_trans (List.length_filter_le _ _) ?_
    rwa [FileTree.locations, List.length_map]
  unfold Config.readFile
  cases levels with
  | zero =>
    refine mirrors_openFile hsound path fun opened _ _ _ => ?_
    have hfewer := opened.fewer
    omega
  | succ levels =>
    refine mirrors_openFile hsound path fun opened file hstack hopened => ?_
    have hfewer := opened.fewer
    have hdocument : Simulates tree opened.source.stack _ [] _ _ :=
      simulates_ofDocument known levels hopened (by omega) opened.document
    rw [← bind_pure (ofDocument _ _ _ _)]
    rw [hstack] at hdocument ⊢
    exact hdocument.inside id

end Files

/-- Loading ends on every file tree: a loader with a stack needs no more levels than there are
files, its stack never holds a file twice, and its result is that of `load`.  Only a file that
reaches itself is reported as a cycle.  If loading succeeds, the files that were opened are those
that the start reaches, and no file leads to itself.  Whatever succeeds leaves the stack as it found
it. -/
theorem load_terminates (tree : FileTree) (known : String → Bool) (path : String) :
    (∀ levels, tree.files.length ≤ levels → ∃ l : Loader,
      (Stacked.loadFile tree known path levels).run ⟨[], []⟩ =
        (some ((load tree known path).map Prod.fst), l) ∧
      ∀ p ∈ l.history, p.stack.Nodup ∧ p.stack ⊆ tree.locations ∧
        p.stack.length ≤ tree.files.length) ∧
    (∀ file, load tree known path = .error (.includeCycle file) →
      ∃ start r r', tree.locate path = .ok start ∧
        ReflTransGen tree.Includes ⟨.entries, start⟩ ⟨r, file⟩ ∧
        TransGen tree.Includes ⟨r, file⟩ ⟨r', file⟩) ∧
    (∀ c openings, load tree known path = .ok (c, openings) → ∃ start,
      tree.locate path = .ok start ∧
      (∀ file, file ∈ openings.map Opening.file ↔
        ∃ r, ReflTransGen tree.Includes ⟨.entries, start⟩ ⟨r, file⟩) ∧
      ∀ file, ¬ TransGen (tree.Leads start) file file) ∧
    (∀ levels origin target position l l' steps,
      (Stacked.stepsOf tree known levels origin target position).run l = (some (.ok steps), l') →
      l'.stack = l.stack) ∧
    (∀ levels origin target position l l' pipes,
      (Stacked.pipesOf tree known levels origin target position).run l = (some (.ok pipes), l') →
      l'.stack = l.stack) ∧
    ∀ levels l l' c, (Stacked.loadFile tree known path levels).run l = (some (.ok c), l') →
      l'.stack = l.stack := by
  refine ⟨?_, ?_, ?_, ?_, ?_, ?_⟩
  · intro levels hlevels
    -- with a level for each file the stack is full before the levels are used up
    obtain ⟨l, more, hhistory, hmore, hrun⟩ := mirrors_loadFile known path levels hlevels [] []
    refine ⟨l, ?_, ?_⟩
    · obtain ⟨e, hload, hstacked⟩ | ⟨c, c', hload, hstacked, rfl, -⟩ := hrun
      · rw [hstacked, load, hload]
        rfl
      · rw [hstacked, load, hload]
        rfl
    · intro p hp
      rw [hhistory] at hp
      have hsound := hmore p hp
      exact ⟨hsound.nodup, hsound.files, hsound.length_le⟩
  · intro file h
    exact reaches_of_load_eq_includeCycle h
  · intro c openings h
    obtain ⟨start, opened, hstart, rfl, hexpanded⟩ := expanded_of_load h
    exact ⟨start, hstart, hexpanded.mem_iff, hexpanded.not_transGen_leads⟩
  · intro levels origin target position l l' steps h
    exact Stacked.restores_stepsOf levels origin target position h
  · intro levels origin target position l l' pipes h
    exact Stacked.restores_pipesOf levels origin target position h
  · intro levels l l' c h
    exact Stacked.restores_loadFile h

/-- A file that is included twice side by side is no cycle; one that includes a list of steps in
which it is included again is. -/
theorem load_terminates_shared_and_looping :
    let tree (inner : String) : FileTree :=
      ⟨[(["main"], "- include: a\n- include: a\n".toUTF8.toList),
        (["a"], "- pipe:\n  - include: b\n  - include: b\n".toUTF8.toList),
        (["b"], inner.toUTF8.toList)], [], "/"⟩
    let shared := tree "- name: last\n"
    let looping := tree "- pipe:\n  - include: a\n"
    (∃ c openings, load shared (fun _ => true) "main" = .ok (c, openings) ∧
      openings.map Opening.depth = [0, 1, 2, 2, 1, 2, 2] ∧
      ∀ file, ¬ TransGen (shared.Leads ["main"]) file file) ∧
    load looping (fun _ => true) "main" = .error (.includeCycle ["a"]) ∧
    ∃ r r', ReflTransGen looping.Includes ⟨.entries, ["main"]⟩ ⟨r, ["a"]⟩ ∧
      TransGen looping.Includes ⟨r, ["a"]⟩ ⟨r', ["a"]⟩ := by
  intro tree shared looping
  have hmain : shared.locate "main" = .ok ["main"] := by decide +kernel
  have hmain' : looping.locate "main" = .ok ["main"] := by decide +kernel
  obtain ⟨-, -, hsuccess, -⟩ := load_terminates shared (fun _ => true) "main"
  obtain ⟨-, hcycle, -⟩ := load_terminates looping (fun _ => true) "main"
  have hshared : (load shared (fun _ => true) "main").toOption.map (·.2.map Opening.depth) =
      some [0, 1, 2, 2, 1, 2, 2] := by
    decide +kernel
  have hlooping : (match load looping (fun _ => true) "main" with
      | .error (.includeCycle file) => some file
      | _ => none) = some ["a"] := by
    decide +kernel
  constructor
  · cases hload : load shared (fun _ => true) "main" with
    | error e =>
      rw [hload] at hshared
      cases hshared
    | ok r =>
      rw [hload] at hshared
      obtain ⟨start, hstart, -, hacyclic⟩ := hsuccess r.1 r.2 hload
      rw [hmain] at hstart
      cases hstart
      exact ⟨r.1, r.2, rfl, Option.some.inj hshared, hacyclic⟩
  · split at hlooping
    · next file hload =>
      cases hlooping
      obtain ⟨start, r, r', hstart, hreach, hloop⟩ := hcycle _ hload
      rw [hmain'] at hstart
      cases hstart
      exact ⟨hload, r, r', hreach, hloop⟩
    · cases hlooping

end Sluice
