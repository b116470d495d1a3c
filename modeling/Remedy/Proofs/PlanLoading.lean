import Remedy.Proofs.PlanChains

/-!
# Loading a plan

A loader whose cache is `Coherent` comes to the `Outcome` of the chain it follows, and its cache
stays coherent, also where the plan cannot be loaded (`loadFrom_loaded`). The number of steps it may
take is never used up.

From this come the two results: `load_along_chain` says what a loader answers for every disk in
terms of the chain of plans, and `answers_eq_fresh` that a loader answers every call as a new one
would, whatever it was asked before.
-/

namespace Remedy

namespace Loader

/-- A loader with nothing in its cache. -/
def fresh (directory : Text) (follows : Bool) : Loader := ⟨directory, follows, []⟩

/-- Every plan that is kept is what the chain of its file comes to. -/
def Coherent (disk : Disk) (loader : Loader) : Prop :=
  ∀ path plan, loader.cached? path = some plan →
    disk.Outcome loader.followsExtends [] path (.ok plan)

/-- A plan was looked for at a path that the paths of a chain lead to. -/
structure Loaded (disk : Disk) (loader : Loader) (chain : List Text) (path : Text)
    (result : Loader × Except LoadFailure Plan) : Prop where
  outcome : disk.Outcome loader.followsExtends chain path result.2
  coherent : result.1.Coherent disk
  directory : result.1.directory = loader.directory
  followsExtends : result.1.followsExtends = loader.followsExtends

variable {disk : Disk} {loader : Loader}

theorem cached?_keep (path other : Text) (plan : Plan) :
    (loader.keep path plan).cached? other =
      if path = other then some plan else loader.cached? other := by
  by_cases h : path = other <;> simp [cached?, keep, h]

theorem coherent_fresh (disk : Disk) (directory : Text) (follows : Bool) :
    (fresh directory follows).Coherent disk := by
  simp [Coherent, fresh, cached?]

theorem Coherent.keep {path : Text} {plan : Plan} (h : loader.Coherent disk)
    (hplan : disk.Outcome loader.followsExtends [] path (.ok plan)) :
    (loader.keep path plan).Coherent disk := by
  intro other found hfound
  rw [cached?_keep] at hfound
  split_ifs at hfound with heq
  · obtain rfl := Option.some.inj hfound
    exact heq ▸ hplan
  · exact h other found hfound

theorem Loaded.keep {chain : List Text} {path base : Text} {plan basePlan : Plan} {after : Loader}
    (hread : disk.readPlan path = .ok plan)
    (hbase : plan.next? loader.followsExtends path = some base)
    (h : Loaded disk loader (chain ++ [path]) base (after, .ok basePlan)) :
    Loaded disk loader chain path
      (after.keep path (basePlan.merge plan), .ok (basePlan.merge plan)) where
  outcome := h.outcome.next hread hbase
  coherent := by
    refine h.coherent.keep ?_
    rw [h.followsExtends]
    exact Disk.Outcome.of_ok (h.outcome.next hread hbase)
  directory := h.directory
  followsExtends := h.followsExtends

/-- Loading comes to what the chain comes to. The paths that led to this one are all different, so
the steps that are left suffice. -/
theorem loadFrom_loaded {start path : Text} {before : List (Text × Plan)} {fuel : Nat}
    (habs : Path.isAbsolute start = true) (hcoherent : loader.Coherent disk)
    (hway : disk.Leads loader.followsExtends start before path)
    (hnodup : (before.map Prod.fst).Nodup)
    (hfuel : (disk.tree.leaves []).length + 2 ≤ before.length + fuel) :
    Loaded disk loader (before.map Prod.fst) path
      (loadFrom disk (before.map Prod.fst) loader path fuel) := by
  induction fuel generalizing path before with
  | zero =>
    have := hway.length_le habs hnodup
    omega
  | succ fuel ih =>
    unfold loadFrom
    split
    · rename_i plan hcached
      exact ⟨(hcoherent path plan hcached).of_ok, hcoherent, rfl, rfl⟩
    · split
      · rename_i hmem
        have houtcome : disk.Outcome loader.followsExtends (before.map Prod.fst) path
            (.error (.circular (before.map Prod.fst ++ []) path)) :=
          .circular .here (by simpa using hmem) (by simpa using hnodup)
        exact ⟨by rwa [List.append_nil] at houtcome, hcoherent, rfl, rfl⟩
      · rename_i hmem
        split
        · rename_i failure hread
          exact ⟨.failed .here hread, hcoherent, rfl, rfl⟩
        · rename_i plan hread
          split
          · rename_i hnext
            have houtcome (chain : List Text) :
                disk.Outcome loader.followsExtends chain path (.ok plan) :=
              .merged .here hread hnext
            exact ⟨houtcome _, hcoherent.keep (houtcome _), rfl, rfl⟩
          · rename_i base hnext
            have hnodup' : ((before ++ [(path, plan)]).map Prod.fst).Nodup := by
              rw [List.map_append, List.map_singleton, ← List.concat_eq_append]
              exact hnodup.concat (by simpa using hmem)
            have hrest := ih (hway.concat hread hnext) hnodup' (by simp; omega)
            rw [List.map_append, List.map_singleton] at hrest
            split
            · rename_i after failure hload
              rw [hload] at hrest
              exact ⟨hrest.outcome.next hread hnext, hrest.coherent, hrest.directory,
                hrest.followsExtends⟩
            · rename_i after basePlan hload
              rw [hload] at hrest
              exact hrest.keep hread hnext

theorem load_loaded (hcoherent : loader.Coherent disk) (path : Text) :
    Loaded disk loader [] (loader.absolute disk path) (load disk loader path) :=
  loadFrom_loaded rfl hcoherent .here List.nodup_nil (by simp)

/-! ## Along the chain -/

/-- The chain from any path ends or comes back, after no more plans than there are files and one
more, and more steps give the same answer. All plans of the chain are laid over the last one if that
extends no other. Otherwise the failure is that of the first plan that cannot be read, which it
names, or it tells of a circle, exactly when the chain comes back to a path it has passed. -/
theorem load_along_chain (disk : Disk) (directory path : Text) :
    let start := Path.resolve (disk.absolute directory) path
    let answer := (load disk (fresh directory true) path).2
    (∃ way last, disk.Leads true start way last ∧
      way.length ≤ (disk.tree.leaves []).length + 1 ∧
      (disk.Stops true last ∨ last ∈ way.map Prod.fst)) ∧
    (∀ more, (loadFrom disk [] (fresh directory true) start
      ((disk.tree.leaves []).length + 2 + more)).2 = answer) ∧
    (∀ plan, answer = .ok plan ↔ ∃ way last base, disk.Leads true start way last ∧
      disk.readPlan last = .ok base ∧ base.basePath? last = none ∧ plan = base.overlay way) ∧
    (∀ failure, (answer = .error failure ∧ ∀ chain last, failure ≠ .circular chain last) ↔
      ∃ way, disk.Leads true start way failure.path ∧
        disk.readPlan failure.path = .error failure) ∧
    ((∃ chain last, answer = .error (.circular chain last)) ↔
      ∃ way last, disk.Leads true start way last ∧ last ∈ way.map Prod.fst) := by
  intro start answer
  have hcoherent := coherent_fresh disk directory true
  have houtcome : disk.Outcome true [] start answer := (load_loaded hcoherent path).outcome
  refine ⟨houtcome.exists_end rfl, fun more => ?_, fun plan => houtcome.eq_ok_iff,
    fun failure => houtcome.eq_error_iff, houtcome.eq_circular_iff⟩
  have hmore : Loaded disk (fresh directory true) [] start
      (loadFrom disk [] (fresh directory true) start ((disk.tree.leaves []).length + 2 + more)) :=
    loadFrom_loaded rfl hcoherent .here List.nodup_nil (by simp)
  exact hmore.outcome.unique houtcome

/-- In folder `p`, a plan that extends one outside and two that extend each other. -/
def extendingDisk : Disk where
  tree := .folder "p" (.file "c" (Utf8.encode "version: '1.0'\nname: c\nextends: ../b\n")
      (.file "x" (Utf8.encode "version: '1.0'\nname: x\nextends: y\n")
        (.file "y" (Utf8.encode "version: '1.0'\nname: y\nextends: ./x\n") .empty)))
    (.file "b" (Utf8.encode "version: '1.0'\nname: b\ndescription: d\n") .empty)
  here := []

def namedPlan (name : Text) (description base : Option Text) : Plan :=
  ⟨"1.0", name, description, base, .default, [], []⟩

theorem load_along_chain_upwards :
    (load extendingDisk (fresh "/p" true) "c").2 =
        .ok (namedPlan "c" (some "d") (some "../b")) ∧
      ∃ chain last, (load extendingDisk (fresh "/p" true) "x").2 =
        .error (.circular chain last) := by
  have hc : extendingDisk.readPlan "/p/c" = .ok (namedPlan "c" none (some "../b")) := by
    decide +kernel
  have hb : extendingDisk.readPlan "/b" = .ok (namedPlan "b" (some "d") none) := by
    decide +kernel
  have hx : extendingDisk.readPlan "/p/x" = .ok (namedPlan "x" none (some "y")) := by
    decide +kernel
  have hy : extendingDisk.readPlan "/p/y" = .ok (namedPlan "y" none (some "./x")) := by
    decide +kernel
  obtain ⟨-, -, hok, -, -⟩ := load_along_chain extendingDisk "/p" "c"
  obtain ⟨-, -, -, -, hcircular⟩ := load_along_chain extendingDisk "/p" "x"
  constructor
  · exact (hok _).2 ⟨_, _, _, .next hc rfl .here, hb, rfl, rfl⟩
  · exact hcircular.2 ⟨_, _, .next hx rfl (.next hy rfl .here), .head _⟩

/-! ## The cache -/

/-- What a loader can be asked for. -/
inductive Request where
  | load (path : Text)
  | validate (path : Text)
  /-- A plan from its text, with the source to name in failures. -/
  | parse (source content : Text)
  | clear
  deriving DecidableEq, Repr

inductive Answer where
  | plan (result : Except LoadFailure Plan)
  | issues (details : List Text)
  | done

def answer (disk : Disk) (loader : Loader) : Request → Loader × Answer
  | .load path => ((load disk loader path).1, .plan (load disk loader path).2)
  | .validate path => (loader, .issues (validate disk loader path))
  | .parse source content => (loader, .plan (Plan.parse source content))
  | .clear => (loader.clear, .done)

/-- The answers to some requests, one after another. -/
def answers (disk : Disk) (loader : Loader) : List Request → List Answer
  | [] => []
  | request :: requests =>
    (answer disk loader request).2 :: answers disk (answer disk loader request).1 requests

/-- A request is answered out of a coherent cache as it is without one, and the cache stays
coherent. -/
theorem answer_of_coherent (h : loader.Coherent disk) (request : Request) :
    (answer disk loader request).2 =
        (answer disk (fresh loader.directory loader.followsExtends) request).2 ∧
      (answer disk loader request).1.Coherent disk ∧
      (answer disk loader request).1.directory = loader.directory ∧
      (answer disk loader request).1.followsExtends = loader.followsExtends := by
  cases request with
  | load path =>
    have hloaded := load_loaded h path
    have hfresh :=
      load_loaded (coherent_fresh disk loader.directory loader.followsExtends) path
    refine ⟨?_, hloaded.coherent, hloaded.directory, hloaded.followsExtends⟩
    exact congrArg Answer.plan (hloaded.outcome.unique hfresh.outcome)
  | validate path => exact ⟨rfl, h, rfl, rfl⟩
  | parse source content => exact ⟨rfl, h, rfl, rfl⟩
  | clear => exact ⟨rfl, coherent_fresh disk _ _, rfl, rfl⟩

theorem answers_of_coherent (h : loader.Coherent disk) (requests : List Request) :
    answers disk loader requests = requests.map fun request =>
      (answer disk (fresh loader.directory loader.followsExtends) request).2 := by
  induction requests generalizing loader with
  | nil => rfl
  | cons request requests ih =>
    obtain ⟨hanswer, hcoherent, hdirectory, hfollows⟩ := answer_of_coherent h request
    rw [answers, List.map_cons, hanswer, ih hcoherent, hdirectory, hfollows]

/-- The cache cannot be told from outside: in any sequence of requests, with failures among them, a
loader answers each as a new one with the same options does. -/
theorem answers_eq_fresh (disk : Disk) (directory : Text) (follows : Bool)
    (requests : List Request) :
    answers disk (fresh directory follows) requests =
      requests.map fun request => (answer disk (fresh directory follows) request).2 :=
  answers_of_coherent (coherent_fresh disk directory follows) requests

end Loader

end Remedy
