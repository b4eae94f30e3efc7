import InstanceLink.Registry.Factories
import Mathlib.Data.List.Destutter

/-!
# Who shares an executor

One executor is kept, under the way it was asked for. Requests in a row that are made in the
same way share it; a request that is made in another way gets a new one and puts the kept one
out, also when both ask for the same number of workers. So requests share one executor exactly
when all of them are made in the same way, and each change of the way costs one more.
-/

namespace InstanceLink

/-- What a registry knows of executors: the one kept, under its request, and how many were
built. -/
structure ExecutorPool where
  kept : Option (WorkersRequest × SharedExecutor)
  built : Nat

/-- The executor that is kept was built before, for the request it is kept under. -/
def ExecutorPool.IsSound (p : ExecutorPool) : Prop :=
  ∀ q e, p.kept = some (q, e) → e.number < p.built ∧ e.workers = q.workers

/-- Requests served one after the other, where one executor is kept. -/
inductive Serves :
    ExecutorPool → List WorkersRequest → List SharedExecutor → ExecutorPool → Prop where
  | done (p : ExecutorPool) : Serves p [] [] p
  /-- A request like the one kept is handed the executor that is kept. -/
  | again {q : WorkersRequest} {e : SharedExecutor} {n : Nat} {requests : List WorkersRequest}
      {handed : List SharedExecutor} {p : ExecutorPool}
      (later : Serves ⟨some (q, e), n⟩ requests handed p) :
      Serves ⟨some (q, e), n⟩ (q :: requests) (e :: handed) p
  /-- Any other is handed a new one, which is kept from then on. -/
  | anew {kept : Option (WorkersRequest × SharedExecutor)} {q : WorkersRequest} {n : Nat}
      {requests : List WorkersRequest} {handed : List SharedExecutor} {p : ExecutorPool}
      (other : ∀ e, kept ≠ some (q, e))
      (later : Serves ⟨some (q, ⟨n, q.workers⟩), n + 1⟩ requests handed p) :
      Serves ⟨kept, n⟩ (q :: requests) (⟨n, q.workers⟩ :: handed) p

/-- A new executor is numbered behind all others. -/
theorem ExecutorPool.isSound_anew (q : WorkersRequest) (n : Nat) :
    ExecutorPool.IsSound ⟨some (q, ⟨n, q.workers⟩), n + 1⟩ := by
  rintro q e ⟨⟩
  exact ⟨Nat.lt_succ_self n, rfl⟩

namespace Serves

variable {p p' : ExecutorPool} {requests : List WorkersRequest} {handed : List SharedExecutor}
  {k : WorkersRequest} {e : SharedExecutor}

/-- Every request is handed one executor. -/
theorem length_handed (h : Serves p requests handed p') : handed.length = requests.length := by
  induction h with
  | done => rfl
  | again _ ih => rw [List.length_cons, List.length_cons, ih]
  | anew _ _ ih => rw [List.length_cons, List.length_cons, ih]

/-- What is handed out has as many workers as some request asked for. -/
theorem exists_workers_eq (h : Serves p requests handed p') (hp : p.IsSound) :
    ∀ x ∈ handed, ∃ q ∈ requests, x.workers = q.workers := by
  induction h with
  | done => exact nofun
  | @again q e _ _ _ _ _ ih =>
    refine List.forall_mem_cons.mpr ⟨⟨q, List.mem_cons_self, (hp q e rfl).2⟩, fun x hx => ?_⟩
    obtain ⟨r, hr, hworkers⟩ := ih hp x hx
    exact ⟨r, List.mem_cons_of_mem _ hr, hworkers⟩
  | @anew _ q n _ _ _ _ _ ih =>
    refine List.forall_mem_cons.mpr ⟨⟨q, List.mem_cons_self, rfl⟩, fun x hx => ?_⟩
    obtain ⟨r, hr, hworkers⟩ := ih (ExecutorPool.isSound_anew q n) x hx
    exact ⟨r, List.mem_cons_of_mem _ hr, hworkers⟩

/-- An executor that is handed out is the one kept or a new one. -/
theorem kept_or_built_le (h : Serves p requests handed p') (hkept : p.kept = some (k, e)) :
    ∀ x ∈ handed, x = e ∨ p.built ≤ x.number := by
  induction h generalizing k e with
  | done => exact nofun
  | again _ ih =>
    cases hkept
    exact List.forall_mem_cons.mpr ⟨.inl rfl, ih rfl⟩
  | anew _ _ ih =>
    refine List.forall_mem_cons.mpr ⟨.inr (Nat.le_refl _), fun x hx => .inr ?_⟩
    rcases ih rfl x hx with rfl | hnew
    · exact Nat.le_refl _
    · exact Nat.le_of_succ_le hnew

/-- The executor that is kept is handed out as long as all requests are like its own. -/
theorem eq_kept_iff (h : Serves p requests handed p') (hp : p.IsSound)
    (hkept : p.kept = some (k, e)) {j : Nat} {x : SharedExecutor} (hx : handed[j]? = some x) :
    x = e ↔ ∀ q ∈ requests.take (j + 1), q = k := by
  induction h generalizing j with
  | done => contradiction
  | again later ih =>
    cases hkept
    rw [List.take_succ_cons, List.forall_mem_cons]
    cases j with
    | zero =>
      obtain rfl := Option.some.inj hx
      simp
    | succ j => simp [ih hp rfl hx]
  | @anew kept q n requests handed p' hother later _ =>
    have hq : q ≠ k := by
      rintro rfl
      exact hother e hkept
    have hold : e.number < n := (hp k e hkept).1
    have hnew : n ≤ x.number := by
      rcases List.mem_cons.mp (List.mem_of_getElem? hx) with rfl | hlater
      · exact Nat.le_refl n
      · rcases later.kept_or_built_le rfl x hlater with rfl | hbehind
        · exact Nat.le_refl n
        · exact Nat.le_of_succ_le hbehind
    refine iff_of_false ?_ fun hall => hq (hall q (by simp))
    rintro rfl
    omega

/-- Behind a request, the executor it was handed is handed out as long as all are like it. -/
theorem head_eq_iff {q : WorkersRequest} {n : Nat}
    (later : Serves ⟨some (q, e), n⟩ requests handed p')
    (hp : ExecutorPool.IsSound ⟨some (q, e), n⟩) {j : Nat} {x : SharedExecutor}
    (hx : (e :: handed)[j]? = some x) :
    e = x ↔ ∀ r ∈ (q :: requests).take (j + 1), some q = some r := by
  rw [List.take_succ_cons, List.forall_mem_cons]
  cases j with
  | zero =>
    obtain rfl := Option.some.inj hx
    simp
  | succ j =>
    have hkept := later.eq_kept_iff hp rfl hx
    simp only [true_and, Option.some.injEq, eq_comm (a := e), eq_comm (a := q), hkept]

/-- What a request is handed goes to a later one exactly when all up to that are like the
first. -/
theorem eq_iff (h : Serves p requests handed p') (hp : p.IsSound) {i j : Nat} (hij : i ≤ j)
    {x y : SharedExecutor} (hx : handed[i]? = some x) (hy : handed[j]? = some y) :
    x = y ↔ ∀ q ∈ (requests.take (j + 1)).drop i, requests[i]? = some q := by
  induction h generalizing i j with
  | done => contradiction
  | again later ih =>
    cases i with
    | zero =>
      obtain rfl := Option.some.inj hx
      exact later.head_eq_iff hp hy
    | succ i =>
      obtain ⟨j, rfl⟩ : ∃ n, j = n + 1 := ⟨j - 1, by omega⟩
      exact ih hp (Nat.le_of_succ_le_succ hij) hx hy
  | @anew kept q n requests handed p' hother later ih =>
    have hsound := ExecutorPool.isSound_anew q n
    cases i with
    | zero =>
      obtain rfl := Option.some.inj hx
      exact later.head_eq_iff hsound hy
    | succ i =>
      obtain ⟨j, rfl⟩ : ∃ n, j = n + 1 := ⟨j - 1, by omega⟩
      exact ih hsound (Nat.le_of_succ_le_succ hij) hx hy

/-- The executor that is kept is handed to all requests exactly when they are like its own. -/
theorem all_kept_iff (h : Serves p requests handed p') (hp : p.IsSound)
    (hkept : p.kept = some (k, e)) : (∀ x ∈ handed, x = e) ↔ ∀ q ∈ requests, q = k := by
  induction h with
  | done => simp
  | again _ ih =>
    cases hkept
    simp [ih hp rfl]
  | @anew kept q n requests handed p' hother _ _ =>
    refine iff_of_false (fun hall => ?_) fun hall => ?_
    · have hold : e.number < n := (hp k e hkept).1
      rw [← hall _ List.mem_cons_self] at hold
      exact Nat.lt_irrefl n hold
    · rw [← hall q List.mem_cons_self] at hkept
      exact hother e hkept

/-- The members of a row are all the same exactly when those behind the first are like it. -/
theorem all_mem_eq_iff {α : Type} {a : α} {l : List α} :
    (∀ x ∈ a :: l, ∀ y ∈ a :: l, x = y) ↔ ∀ x ∈ l, x = a := by
  constructor
  · exact fun h x hx => h x (List.mem_cons_of_mem a hx) a List.mem_cons_self
  · intro h
    have hall : ∀ x ∈ a :: l, x = a := List.forall_mem_cons.mpr ⟨rfl, h⟩
    exact fun x hx y hy => (hall x hx).trans (hall y hy).symm

/-- All requests share one executor exactly when they are alike. -/
theorem all_eq_iff (h : Serves p requests handed p') (hp : p.IsSound) :
    (∀ x ∈ handed, ∀ y ∈ handed, x = y) ↔ ∀ q ∈ requests, ∀ r ∈ requests, q = r := by
  cases h with
  | done => simp
  | again later => rw [all_mem_eq_iff, all_mem_eq_iff, later.all_kept_iff hp rfl]
  | anew _ later =>
    rw [all_mem_eq_iff, all_mem_eq_iff,
      later.all_kept_iff (ExecutorPool.isSound_anew _ _) rfl]

/-- Executors are only ever added. -/
theorem built_le (h : Serves p requests handed p') : p.built ≤ p'.built := by
  induction h with
  | done => exact Nat.le_refl _
  | again _ ih => exact ih
  | anew _ _ ih => exact Nat.le_of_succ_le ih

/-- No executor is built exactly when all requests are like the one kept. -/
theorem built_eq_iff (h : Serves p requests handed p') (hkept : p.kept = some (k, e)) :
    p'.built = p.built ↔ ∀ q ∈ requests, q = k := by
  induction h with
  | done => simp
  | again _ ih =>
    cases hkept
    simp [ih rfl]
  | @anew kept q n requests handed p' hother later _ =>
    refine iff_of_false ?_ fun hall => ?_
    · have hbuilt := later.built_le
      simp only at hbuilt ⊢
      omega
    · rw [← hall q List.mem_cons_self] at hkept
      exact hother e hkept

/-- Each request unlike the one before it costs an executor. -/
theorem built_add_one (h : Serves p requests handed p') (hkept : p.kept = some (k, e)) :
    p'.built + 1 = p.built + (requests.destutter' (· ≠ ·) k).length := by
  induction h generalizing k e with
  | done => rfl
  | again _ ih =>
    cases hkept
    rw [List.destutter'_cons_neg _ (by simp)]
    exact ih rfl
  | @anew kept q n requests handed p' hother later ih =>
    have hq : k ≠ q := by
      rintro rfl
      exact hother e hkept
    have hlater := ih rfl
    rw [List.destutter'_cons_pos (R := (· ≠ ·)) _ hq, List.length_cons]
    simp only at hlater ⊢
    omega

/-- From no executor on, as many are built as there are blocks of like requests. -/
theorem built_eq (h : Serves p requests handed p') (hnone : p.kept = none) :
    p'.built = p.built + (requests.destutter (· ≠ ·)).length := by
  cases h with
  | done => simp
  | again => contradiction
  | anew hother later =>
    have hlater := later.built_add_one rfl
    rw [List.destutter_cons']
    simp only at hlater ⊢
    omega

/-- From no executor on, one is built exactly when there are requests and all are alike. -/
theorem built_eq_add_one_iff (h : Serves p requests handed p') (hnone : p.kept = none)
    (hne : requests ≠ []) :
    p'.built = p.built + 1 ↔ ∀ q ∈ requests, ∀ r ∈ requests, q = r := by
  cases h with
  | done => contradiction
  | again => contradiction
  | anew _ later => rw [all_mem_eq_iff, ← later.built_eq_iff rfl]

/-- The executor that is kept in the end is the last one handed out. -/
theorem kept_eq (h : Serves p requests handed p') :
    p'.kept.map Prod.snd = handed.getLast?.or (p.kept.map Prod.snd) := by
  induction h with
  | done => simp
  | again _ ih => rw [ih, List.getLast?_cons]; simp
  | anew _ _ ih => rw [ih, List.getLast?_cons]; simp

end Serves

namespace Registry

/-- The executors of a registry. -/
def pool (r : Registry) : ExecutorPool := ⟨r.executors.entry, r.executorsBuilt⟩

variable {r : Registry} {q : WorkersRequest} {u : Use}

/-- A request for some workers is handed the executor that is kept for it, or else a new one. -/
theorem executor_cases (h : r.pool.IsSound) (hq : 0 < q.workers) :
    (∃ e, r.pool.kept = some (q, e) ∧ (r.executor q).2 = .ok e ∧
        (r.executor q).1.pool = r.pool) ∨
      (∀ e, r.pool.kept ≠ some (q, e)) ∧
        (r.executor q).2 = .ok ⟨r.pool.built, q.workers⟩ ∧
        (r.executor q).1.pool =
          ⟨some (q, ⟨r.pool.built, q.workers⟩), r.pool.built + 1⟩ := by
  cases hfound : r.executors.find? q with
  | some e =>
    have hentry : r.executors.entry = some (q, e) := by
      unfold Shared.find? at hfound
      split at hfound
      next key value heq =>
        split at hfound
        next hkey => rw [heq, hkey, Option.some.inj hfound]
        next => contradiction
      next => contradiction
    have hbefore : e.number ≠ r.executorsBuilt := Nat.ne_of_lt (h q e hentry).1
    refine .inl ⟨e, hentry, ?_, ?_⟩
    · simp [executor, Shared.get, hfound]
    · simp [executor, Shared.get, hfound, pool, Except.toOption, hbefore]
  | none =>
    have hbuild : build r.executorsBuilt q.workers = .ok ⟨r.executorsBuilt, q.workers⟩ := by
      rw [build, if_neg (by omega)]
    refine .inr ⟨?_, ?_, ?_⟩
    · intro e hentry
      have hentry' : r.executors.entry = some (q, e) := hentry
      simp [Shared.find?, hentry'] at hfound
    · simp [executor, Shared.get, hfound, hbuild, pool]
    · simp [executor, Shared.get, hfound, hbuild, pool, Except.toOption]

/-- Asking for the admin client leaves the executors alone. -/
theorem pool_admin (r : Registry) (adminFault : Option Fault) :
    (r.admin adminFault).1.pool = r.pool := rfl

/-- A factory asks for an executor when its properties name an instance, whether or not the name
can be read. -/
theorem request?_factory (properties : List (String × String)) (adminFault : Option Fault) :
    (Use.factory properties adminFault).request? =
      ((properties.lookup Config.instanceProperty).filter fun s => !s.isEmpty).map
        fun _ => WorkersRequest.omitted := by
  cases hnamed : (properties.lookup Config.instanceProperty).filter fun s => !s.isEmpty with
  | none => simp [Use.request?, SocketFactory.ofProperties, hnamed]
  | some s =>
    cases hread : InstanceName.read s <;>
      simp [Use.request?, SocketFactory.ofProperties, hnamed, hread]

/-- A factory whose properties name an instance does to the executors what asking for one without
a number does, and fetches with what that is answered. -/
theorem factory_named {properties : List (String × String)} {s : String}
    (hnamed : ((properties.lookup Config.instanceProperty).filter fun s => !s.isEmpty) = some s)
    (r : Registry) (adminFault : Option Fault) :
    (r.factory properties adminFault).1.pool = (r.executor .omitted).1.pool ∧
      ∀ x, (r.factory properties adminFault).2 = .ok x →
        (r.executor .omitted).2 = .ok x.executor := by
  simp only [factory, hnamed]
  rcases r.executor .omitted with ⟨asked, answer⟩
  cases answer with
  | error fault => exact ⟨rfl, nofun⟩
  | ok executor =>
    rcases hadmin : asked.admin adminFault with ⟨behind, admin⟩
    have hpool : behind.pool = asked.pool := by rw [← pool_admin asked adminFault, hadmin]
    simp only [hadmin]
    cases admin with
    | error fault => exact ⟨hpool, nofun⟩
    | ok number =>
      cases InstanceName.read s with
      | error cause => exact ⟨hpool, nofun⟩
      | ok name =>
        refine ⟨hpool, ?_⟩
        rintro x ⟨⟩
        rfl

/-- A use does to the executors what its request does, and nothing without one. -/
theorem pool_use (r : Registry) (u : Use) :
    (r.use u).pool = u.request?.elim r.pool fun q => (r.executor q).1.pool := by
  cases u with
  | executor request => rfl
  | factory properties adminFault =>
    rw [request?_factory]
    cases hnamed : (properties.lookup Config.instanceProperty).filter fun s => !s.isEmpty with
    | none => simp only [use, factory, hnamed, Option.map_none, Option.elim_none]
    | some s => exact (factory_named hnamed r adminFault).1

/-- A row of uses is served by the rule for its requests. -/
theorem serves_uses {row : List Use} (h : r.pool.IsSound)
    (hrow : ∀ q ∈ requests row, 0 < q.workers) :
    Serves r.pool (requests row) (r.handedOut row) (r.uses row).pool := by
  induction row generalizing r with
  | nil => exact .done r.pool
  | cons u row ih =>
    have hpool := r.pool_use u
    cases hasked : u.request? with
    | none =>
      rw [hasked, Option.elim_none] at hpool
      have hnone : r.handed? u = none := by rw [handed?, hasked, Option.bind_none]
      have hlater := ih (r := r.use u) (by rwa [hpool]) (by simpa [requests, hasked] using hrow)
      rw [hpool] at hlater
      simpa [requests, handedOut, hasked, hnone, uses] using hlater
    | some q =>
      rw [hasked, Option.elim_some] at hpool
      have hrequests : requests (u :: row) = q :: requests row := by simp [requests, hasked]
      rw [hrequests, List.forall_mem_cons] at hrow
      obtain ⟨hq, hrest⟩ := hrow
      have hstep := executor_cases h hq
      rw [hrequests, handedOut, handed?, hasked, Option.bind_some]
      rcases hstep with ⟨e, hkept, hanswer, hsame⟩ | ⟨hother, hanswer, hnew⟩
      · have hlater := ih (r := r.use u) (by rwa [hpool, hsame]) hrest
        have hentry : r.pool = ⟨some (q, e), r.pool.built⟩ := by rw [← hkept]
        rw [hpool, hsame, hentry] at hlater
        rw [hanswer, hentry]
        exact .again hlater
      · have hlater := ih (r := r.use u)
          (by rw [hpool, hnew]; exact ExecutorPool.isSound_anew q _) hrest
        rw [hpool, hnew] at hlater
        rw [hanswer]
        exact .anew hother hlater

/-- A factory fetches with the executor that it was handed. -/
theorem handed?_factory {properties : List (String × String)} {adminFault : Option Fault}
    {x : SharedFactory} (h : (r.factory properties adminFault).2 = .ok x) :
    r.handed? (.factory properties adminFault) = some x.executor := by
  rw [handed?, request?_factory]
  cases hnamed : (properties.lookup Config.instanceProperty).filter fun s => !s.isEmpty with
  | none =>
    simp only [factory, hnamed] at h
    contradiction
  | some s =>
    have hanswer := (factory_named hnamed r adminFault).2 x h
    rw [Option.map_some, Option.bind_some, hanswer]
    rfl

/-- Once both shared parts are had, a factory is made for the instance that its properties name,
or refused for the reason they are. -/
theorem instanceName_factory (h : r.pool.IsSound) (properties : List (String × String)) :
    (r.factory properties none).2.map SharedFactory.instanceName =
      (SocketFactory.ofProperties properties).2 := by
  have hexecutor : ∃ asked e, r.executor .omitted = (asked, .ok e) := by
    rcases executor_cases (q := .omitted) h (by decide) with ⟨e, -, hanswer, -⟩ | ⟨-, hanswer, -⟩
    · exact ⟨_, e, Prod.ext rfl hanswer⟩
    · exact ⟨_, _, Prod.ext rfl hanswer⟩
  obtain ⟨asked, e, hasked⟩ := hexecutor
  have hadmin : ∃ behind number, asked.admin none = (behind, .ok number) := by
    cases hfound : asked.admins.find? () <;> simp [admin, Shared.get, hfound]
  obtain ⟨behind, number, hbehind⟩ := hadmin
  cases hnamed : (properties.lookup Config.instanceProperty).filter fun s => !s.isEmpty with
  | none => simp only [factory, SocketFactory.ofProperties, hnamed, Except.map]
  | some s =>
    cases hread : InstanceName.read s <;>
      simp only [factory, SocketFactory.ofProperties, hnamed, hasked, hbehind, hread, Except.map]

/-- Requests that are all made in the same way. -/
def Alike (asked : List WorkersRequest) : Prop := ∀ q ∈ asked, ∀ r ∈ asked, q = r

/-- What becomes of requests for the default number of workers, by callers or by factories, from
no executor on. Each is handed an executor with that many workers. Two of them are handed the
same one exactly when all from the first to the later are made in the same way, so all share one
executor, and only one is built, exactly when they all are. In general one is built for each
block of requests made in the same way; the last one is kept, and nobody finds the others again.
A factory fetches with the executor that it was handed. -/
theorem sharing_laws {r : Registry} (hclear : r.executors.entry = none) {row : List Use}
    (hdefault : ∀ q ∈ requests row, q.workers = WorkersRequest.defaultWorkers) :
    ((r.handedOut row).length = (requests row).length ∧
      ∀ x ∈ r.handedOut row, x.workers = WorkersRequest.defaultWorkers) ∧
    (∀ i j x y, i ≤ j → (r.handedOut row)[i]? = some x → (r.handedOut row)[j]? = some y →
      (x = y ↔ ∀ q ∈ ((requests row).take (j + 1)).drop i, (requests row)[i]? = some q)) ∧
    ((∀ x ∈ r.handedOut row, ∀ y ∈ r.handedOut row, x = y) ↔ Alike (requests row)) ∧
    (requests row ≠ [] →
      ((r.uses row).executorsBuilt = r.executorsBuilt + 1 ↔ Alike (requests row))) ∧
    (r.uses row).executorsBuilt =
      r.executorsBuilt + ((requests row).destutter (· ≠ ·)).length ∧
    (r.uses row).executors.entry.map Prod.snd = (r.handedOut row).getLast? ∧
    ∀ (s : Registry) (properties : List (String × String)) (adminFault : Option Fault)
      (x : SharedFactory), (s.factory properties adminFault).2 = .ok x →
        s.handed? (.factory properties adminFault) = some x.executor := by
  have hsound : r.pool.IsSound := by
    intro q e hkept
    cases hclear.symm.trans hkept
  have hpositive : ∀ q ∈ requests row, 0 < q.workers := fun q hq => by
    rw [hdefault q hq]
    decide
  have hserves := serves_uses hsound hpositive
  refine ⟨⟨hserves.length_handed, fun x hx => ?_⟩, ?_, hserves.all_eq_iff hsound, ?_,
    hserves.built_eq hclear, ?_, fun s properties adminFault x => handed?_factory⟩
  · obtain ⟨q, hq, hworkers⟩ := hserves.exists_workers_eq hsound x hx
    rw [hworkers, hdefault q hq]
  · exact fun i j x y hij hx hy => hserves.eq_iff hsound hij hx hy
  · exact hserves.built_eq_add_one_iff hclear
  · have hkept := hserves.kept_eq
    rw [show r.pool.kept = none from hclear, Option.map_none, Option.or_none] at hkept
    exact hkept

/-- The properties of a pool that name an instance. -/
def sampleProperties : List (String × String) :=
  [(Config.instanceProperty, "projects/p/locations/l/clusters/c/instances/i")]

/-- A caller that gives the default number, a factory, and the same caller again. -/
def crossedUses : List Use :=
  [.executor (.positional 4), .factory sampleProperties none, .executor (.positional 4)]

/-- A factory between two calls that are alike costs all three their common executor. -/
theorem sharing_laws_crossed :
    (fresh.handedOut crossedUses).length = 3 ∧ (fresh.uses crossedUses).executorsBuilt = 3 ∧
      ¬∀ x ∈ fresh.handedOut crossedUses, ∀ y ∈ fresh.handedOut crossedUses, x = y := by
  have hrequests : requests crossedUses = [.positional 4, .omitted, .positional 4] := by
    decide +kernel
  obtain ⟨⟨hlength, -⟩, -, hshared, -, hbuilt, -, -⟩ :=
    @sharing_laws fresh rfl crossedUses (by rw [hrequests]; decide)
  rw [hrequests] at hlength hshared hbuilt
  refine ⟨hlength, hbuilt, fun hall => ?_⟩
  have halike := hshared.mp hall
  exact absurd (halike (.positional 4) (by simp) .omitted (by simp)) (by decide)

end Registry

end InstanceLink
