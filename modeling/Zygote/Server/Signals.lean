import Mathlib.Logic.Relation
import Zygote.Server.Handlers

/-!
# Children that end at any time

`handle_signalfd_events` taken apart into its calls, with children ending between any two
of them. A child that ends becomes a zombie and makes `SIGCHLD` pending; pending signals
coalesce, and a read of the signalfd takes them all. A zombie is safe from being forgotten
as long as a signal is pending or the inner loop has not yet seen that there is none left.
-/
namespace Zygote
open Effect

namespace Sigchld

/-- A child of the server. Its pid may be given out again once it is reaped. -/
structure Child where
  id : Nat
  pid : Nat
  uid : UInt32
  deriving DecidableEq

structure Ended where
  child : Child
  termination : Termination
  deriving DecidableEq

def Ended.siginfo (e : Ended) : ChildInfo := e.termination.siginfo e.child.pid e.child.uid

structure Report where
  pid : Nat
  uid : UInt32
  status : BitVec 32
  deriving DecidableEq

def Ended.report (e : Ended) : Report := ⟨e.child.pid, e.child.uid, e.termination.waitStatus⟩

/-- The next call of the server, if it is in the function: `idle` is outside, where
`PollContinue` was returned last. -/
inductive Control where
  | idle
  | read
  | wait
  | failed
  deriving DecidableEq

/-- The server and the kernel. What has ended and what was reaped is remembered. -/
structure State where
  control : Control
  running : List Child
  zombies : List Ended
  pending : Bool
  reports : List Report
  ended : List Ended
  reaped : List Ended

namespace State

def ids (s : State) : List Nat := s.running.map Child.id ++ s.ended.map fun e => e.child.id

def reap (s : State) (e : Ended) : State :=
  { s with zombies := s.zombies.erase e, reaped := e :: s.reaped }

end State

/-- The calls of the function, and what may happen between them. -/
inductive Step : State → State → Prop where
  /-- Only outside the function does the server fork. -/
  | fork {s : State} (child : Child) : s.control = .idle → child.id ∉ s.ids →
      Step s { s with running := child :: s.running }
  | exit {s : State} (e : Ended) : e.child ∈ s.running →
      Step s { s with
        running := s.running.erase e.child
        zombies := s.zombies ++ [e]
        pending := true
        ended := e :: s.ended }
  /-- A child that only stops raises the signal too. -/
  | raise {s : State} : Step s { s with pending := true }
  | call {s : State} : s.control = .idle → Step s { s with control := .read }
  | read {s : State} : s.control = .read → s.pending = true →
      Step s { s with control := .wait, pending := false }
  /-- The read would block, and the function returns `PollContinue`. -/
  | readBlocks {s : State} : s.control = .read → s.pending = false →
      Step s { s with control := .idle }
  | readFails {s : State} : s.control = .read → Step s { s with control := .failed }
  | waitReaps {s : State} (e : Ended) (status : BitVec 32) : s.control = .wait → e ∈ s.zombies →
      rawStatusFromSiginfo e.siginfo = .ok status →
      Step s { s.reap e with reports := ⟨e.child.pid, e.child.uid, status⟩ :: s.reports }
  | statusFails {s : State} (e : Ended) (error : WaitError) : s.control = .wait → e ∈ s.zombies →
      rawStatusFromSiginfo e.siginfo = .error error → Step s { s.reap e with control := .failed }
  | waitNone {s : State} : s.control = .wait → s.zombies = [] → Step s { s with control := .read }
  | waitFails {s : State} : s.control = .wait → Step s { s with control := .failed }

structure Start (s : State) : Prop where
  control : s.control = .idle
  zombies : s.zombies = []
  reports : s.reports = []
  ended : s.ended = []
  reaped : s.reaped = []
  distinct : (s.running.map Child.id).Nodup

structure Invariant (s : State) : Prop where
  conserved : s.ended.Perm (s.reaped ++ s.zombies)
  reported : s.reports = s.reaped.map Ended.report
  distinct : s.ids.Nodup
  alert : s.zombies ≠ [] → s.pending = true ∨ s.control = .wait ∨ s.control = .failed

theorem Start.invariant {s : State} (h : Start s) : Invariant s where
  conserved := by rw [h.ended, h.reaped, h.zombies]; exact .nil
  reported := by rw [h.reports, h.reaped]; rfl
  distinct := by
    rw [State.ids, h.ended, List.map_nil, List.append_nil]
    exact h.distinct
  alert zombies := absurd h.zombies zombies

theorem ids_exit {s : State} {e : Ended} (mem : e.child ∈ s.running) :
    ((s.running.erase e.child).map Child.id ++ (e :: s.ended).map fun e => e.child.id).Perm s.ids := by
  have split : (s.running.map Child.id).Perm
      (e.child.id :: (s.running.erase e.child).map Child.id) :=
    (List.perm_cons_erase mem).map Child.id
  refine .trans ?_ (split.append_right _).symm
  exact List.perm_middle

theorem conserved_reap {s : State} {e : Ended} (h : s.ended.Perm (s.reaped ++ s.zombies))
    (mem : e ∈ s.zombies) : s.ended.Perm (e :: s.reaped ++ s.zombies.erase e) := by
  have split : (s.reaped ++ s.zombies).Perm (s.reaped ++ e :: s.zombies.erase e) :=
    (List.perm_cons_erase mem).append_left _
  exact (h.trans split).trans List.perm_middle

/-- The status of a child that ended never fails to convert. -/
theorem report_eq {e : Ended} {status : BitVec 32}
    (h : rawStatusFromSiginfo e.siginfo = .ok status) : status = e.termination.waitStatus := by
  rw [Ended.siginfo, Termination.rawStatusFromSiginfo_siginfo] at h
  cases h
  rfl

theorem Step.invariant {s t : State} (step : Step s t) (h : Invariant s) : Invariant t := by
  cases step with
  | fork child _ fresh =>
      exact ⟨h.conserved, h.reported, List.nodup_cons.mpr ⟨fresh, h.distinct⟩, h.alert⟩
  | exit e mem =>
      refine ⟨?_, h.reported, (ids_exit mem).nodup_iff.mpr h.distinct, fun _ => Or.inl rfl⟩
      rw [← List.append_assoc]
      exact (h.conserved.cons e).trans (List.perm_append_singleton e _).symm
  | raise => exact ⟨h.conserved, h.reported, h.distinct, fun _ => Or.inl rfl⟩
  | call idle =>
      refine ⟨h.conserved, h.reported, h.distinct, fun zombies => ?_⟩
      rcases h.alert zombies with pending | wait | failed
      · exact Or.inl pending
      · rw [idle] at wait; cases wait
      · rw [idle] at failed; cases failed
  | read _ _ => exact ⟨h.conserved, h.reported, h.distinct, fun _ => Or.inr (Or.inl rfl)⟩
  | readBlocks read quiet =>
      refine ⟨h.conserved, h.reported, h.distinct, fun zombies => ?_⟩
      rcases h.alert zombies with pending | wait | failed
      · rw [quiet] at pending; cases pending
      · rw [read] at wait; cases wait
      · rw [read] at failed; cases failed
  | readFails _ => exact ⟨h.conserved, h.reported, h.distinct, fun _ => Or.inr (Or.inr rfl)⟩
  | waitReaps e status wait mem converted =>
      refine ⟨conserved_reap h.conserved mem, ?_, h.distinct, fun _ => Or.inr (Or.inl wait)⟩
      show _ :: s.reports = e.report :: s.reaped.map Ended.report
      rw [h.reported, report_eq converted]
      rfl
  | statusFails e error _ _ failed =>
      rw [Ended.siginfo, Termination.rawStatusFromSiginfo_siginfo] at failed
      cases failed
  | waitNone _ none => exact ⟨h.conserved, h.reported, h.distinct, fun zombies => absurd none zombies⟩
  | waitFails _ => exact ⟨h.conserved, h.reported, h.distinct, fun _ => Or.inr (Or.inr rfl)⟩

theorem invariant_of_run {s t : State} (run : Relation.ReflTransGen Step s t) (h : Invariant s) :
    Invariant t := by
  induction run with
  | refl => exact h
  | tail _ step ih => exact step.invariant ih

/-- Reports are of different children that have ended, each with its own pid and status, and
when a read finds nothing all that have ended are reported. -/
theorem reported_once {s t : State} (start : Start s) (run : Relation.ReflTransGen Step s t) :
    t.reports = t.reaped.map Ended.report ∧ (t.reaped.map fun e => e.child.id).Nodup ∧
      (∀ e ∈ t.reaped, e ∈ t.ended) ∧
      (t.control = .read → t.pending = false → ∀ e ∈ t.ended, e ∈ t.reaped) := by
  have h := invariant_of_run run start.invariant
  refine ⟨h.reported, ?_, fun e mem => ?_, fun read quiet e mem => ?_⟩
  · have all : (t.ended.map fun e => e.child.id).Nodup := (List.nodup_append.mp h.distinct).2.1
    rw [(h.conserved.map _).nodup_iff, List.map_append] at all
    exact (List.nodup_append.mp all).1
  · exact h.conserved.mem_iff.mpr (List.mem_append_left _ mem)
  · have none : t.zombies = [] := by
      by_contra zombies
      rcases h.alert zombies with pending | wait | failed
      · rw [quiet] at pending; cases pending
      · rw [read] at wait; cases wait
      · rw [read] at failed; cases failed
    have split := h.conserved
    rw [none, List.append_nil] at split
    exact split.mem_iff.mp mem

section sequential
open Server

def Report.deed (r : Report) : Deed := .reported r.pid r.uid r.status

theorem exits (l : List Ended) (k : State) (rest : List Child)
    (running : k.running = l.map Ended.child ++ rest) :
    ∃ k', Relation.ReflTransGen Step k k' ∧ k'.control = k.control ∧ k'.zombies = k.zombies ++ l ∧
      k'.running = rest ∧ k'.reaped = k.reaped ∧ k'.reports = k.reports := by
  induction l generalizing k with
  | nil => exact ⟨k, .refl, rfl, (List.append_nil _).symm, running, rfl, rfl⟩
  | cons e l ih =>
      have mem : e.child ∈ k.running := by rw [running]; exact List.mem_cons_self
      obtain ⟨k', steps, control, zombies, left, reaped, reports⟩ := ih { k with
          running := k.running.erase e.child, zombies := k.zombies ++ [e], pending := true,
          ended := e :: k.ended } (by rw [running]; exact List.erase_cons_head ..)
      refine ⟨k', .head (.exit e mem) steps, control, ?_, left, reaped, reports⟩
      rw [zombies, List.append_assoc, List.singleton_append]

theorem waits (l : List Ended) (k : State) (wait : k.control = .wait) (zombies : k.zombies = l) :
    ∃ k', Relation.ReflTransGen Step k k' ∧ k'.control = .read ∧ k'.pending = k.pending ∧
      k'.reaped = l.reverse ++ k.reaped ∧ k'.reports = (l.map Ended.report).reverse ++ k.reports := by
  induction l generalizing k with
  | nil => exact ⟨_, .single (.waitNone wait zombies), rfl, rfl, rfl, rfl⟩
  | cons e l ih =>
      have mem : e ∈ k.zombies := by rw [zombies]; exact List.mem_cons_self
      have converted : rawStatusFromSiginfo e.siginfo = .ok e.termination.waitStatus :=
        Termination.rawStatusFromSiginfo_siginfo ..
      obtain ⟨k', steps, control, pending, reaped, reports⟩ :=
        ih { k.reap e with reports := e.report :: k.reports } wait
          (by rw [State.reap, zombies]; exact List.erase_cons_head ..)
      refine ⟨k', .head (.waitReaps e _ wait mem converted) steps, control, pending, ?_, ?_⟩
      · rw [reaped, List.reverse_cons, List.append_assoc]
        rfl
      rw [reports, List.map_cons, List.reverse_cons, List.append_assoc, List.singleton_append]

/-- Children that have all ended by the time of a signal, up to the read that finds none. -/
theorem round (l : List Ended) (k : State) (read : k.control = .read) (none : k.zombies = [])
    (running : k.running = l.map Ended.child) :
    ∃ k', Relation.ReflTransGen Step k k' ∧ k'.control = .idle ∧ k'.reaped = l.reverse ++ k.reaped ∧
      k'.reports = (l.map Ended.report).reverse ++ k.reports := by
  obtain ⟨u, ended, control, zombies, -, reaped, reports⟩ :=
    exits l k [] (running.trans (List.append_nil _).symm)
  rw [none, List.nil_append] at zombies
  obtain ⟨v, waited, control', quiet, reaped', reports'⟩ :=
    waits l { u with control := .wait, pending := false } rfl zombies
  have signal : Relation.ReflTransGen Step u { u with control := .wait, pending := false } :=
    .head .raise (.single (.read (s := { u with pending := true }) (control.trans read) rfl))
  refine ⟨_, ended.trans (signal.trans (waited.tail (.readBlocks control' quiet))), rfl, ?_, ?_⟩
  · exact reaped'.trans (congrArg _ reaped)
  · exact reports'.trans (congrArg _ reports)

/-- What the kernel hands out to a process that waits until nothing is left, from the `n`-th call on. -/
def handedOut (env : Env) : List ChildInfo → Nat → List ChildInfo
  | [], _ => []
  | child :: rest, n => if (env.fault n .waitid).isSome then [] else child :: handedOut env rest (n + 1)

/-- What the kernel hands out to a process that reads its signals, and waits at each that is a
`SIGCHLD`. -/
def answers (env : Env) (fd : RawFd) : List Siginfo → Nat → List ChildInfo
  | [], _ => []
  | _ :: rest, n =>
      if (env.fault n (.readSignal fd)).isSome then []
      else
        let infos := handedOut env (env.zombies (n + 1)) (n + 1)
        infos ++ answers env fd rest (n + 1 + (infos.length + 1))

/-- What a part of a run of the server adds to the trace, in so many calls: the reports of the given
siginfos. -/
structure Reaps (s t : Process) (calls : Nat) (infos : List ChildInfo) : Prop where
  env : t.world.env = s.world.env
  pid : t.world.pid = s.world.pid
  clock : t.world.clock = s.world.clock + calls
  trace : ∀ l : List Ended, l.map Ended.siginfo = infos → t.world.trace =
    (l.map fun e => (s.world.pid, e.report.deed)).reverse ++ s.world.trace

theorem Reaps.trans {s t u : Process} {m n : Nat} {early late : List ChildInfo} (h : Reaps s t m early)
    (k : Reaps t u n late) : Reaps s u (m + n) (early ++ late) where
  env := k.env.trans h.env
  pid := k.pid.trans h.pid
  clock := by rw [k.clock, h.clock, Nat.add_assoc]
  trace l split := by
    obtain ⟨l₁, l₂, rfl, first, second⟩ := List.map_eq_append_iff.mp split
    rw [k.trace l₂ second, h.trace l₁ first, h.pid, List.map_append, List.reverse_append,
      List.append_assoc]

theorem attempt_reaps {α : Type} {call : Call}
    {act : World → Except Errno (α × Option RawFd × Tables)} {s t : Process} {o : Outcome Errno α}
    (h : ServerM.sys (attempt call act) s = (o, t)) : Reaps s t 1 [] := by
  have run := (ServerM.sys_eq.mp h).1
  obtain ⟨env, pid, trace⟩ := attempt_frame run
  refine ⟨env, pid, ?_, fun l none => ?_⟩
  · rw [attempt_clock run]
  · rw [List.map_eq_nil_iff.mp none]
    exact trace

theorem waitid_eq {child reaped : Option ChildInfo} {w w' : World}
    (h : waitid child w = (.ok reaped, w')) : w.env.fault w.clock .waitid = none ∧ reaped = child := by
  unfold waitid plainCall at h
  obtain ⟨answered, made, tables, same, -⟩ := attempt_ok_iff.mp h
  cases same
  exact ⟨answered, rfl⟩

theorem waitid_fault {child : Option ChildInfo} {w w' : World} {errno : Errno}
    (h : waitid child w = (.err errno, w')) : w.env.fault w.clock .waitid = some errno := by
  unfold waitid plainCall at h
  obtain ⟨-, fault | ⟨-, act⟩⟩ := attempt_err h
  · exact fault
  · cases act

theorem handleReaped_reaps {info : ChildInfo} {s t : Process} (h : handleReaped info s = (.ok (), t)) :
    Reaps s t 0 [info] := by
  cases converted : rawStatusFromSiginfo info with
  | error error =>
      simp only [handleReaped, converted] at h
      cases h
  | ok status =>
      simp only [handleReaped, converted] at h
      cases h
      refine ⟨rfl, rfl, rfl, fun l same => ?_⟩
      obtain ⟨e, rfl, rfl⟩ := List.map_eq_singleton_iff.mp same
      rw [report_eq converted]
      rfl

/-- The inner loop reports what it is handed out, and makes one call more. -/
theorem reapChildren_reaps {supply : List ChildInfo} {s t : Process}
    (h : reapChildren supply s = (.ok (), t)) :
    Reaps s t ((handedOut s.world.env supply s.world.clock).length + 1)
      (handedOut s.world.env supply s.world.clock) := by
  induction supply generalizing s with
  | nil =>
      obtain ⟨r, u, called, h⟩ := Prog.bind_eq_ok.mp h
      rcases Prog.result_eq_ok.mp called with ⟨a, run, rfl⟩ | ⟨errno, run, rfl⟩
      · cases h
        exact attempt_reaps run
      · by_cases none : errno = echild
        · simp only [if_pos none] at h
          cases h
          exact attempt_reaps run
        · simp only [if_neg none] at h
          cases h
  | cons child rest ih =>
      obtain ⟨r, u, called, h⟩ := Prog.bind_eq_ok.mp h
      rcases Prog.result_eq_ok.mp called with ⟨a, run, rfl⟩ | ⟨errno, run, rfl⟩
      · obtain ⟨answered, same⟩ := waitid_eq (ServerM.sys_eq.mp run).1
        cases same
        obtain ⟨⟨⟩, v, handled, h⟩ := Prog.bind_eq_ok.mp h
        have first := (attempt_reaps run).trans (handleReaped_reaps handled)
        have later := ih h
        rw [first.env, first.clock] at later
        have all := first.trans later
        rw [handedOut, answered]
        simpa [Nat.add_comm, Nat.add_left_comm] using all
      · have fault := waitid_fault (ServerM.sys_eq.mp run).1
        by_cases none : errno = echild
        · simp only [if_pos none] at h
          cases h
          rw [handedOut, fault]
          exact attempt_reaps run
        · simp only [if_neg none] at h
          cases h

theorem handleSiginfo_reaps {siginfo : Siginfo} {s t : Process}
    (h : handleSiginfo siginfo s = (.ok .continue, t)) :
    Reaps s t ((handedOut s.world.env (s.world.env.zombies s.world.clock) s.world.clock).length + 1)
      (handedOut s.world.env (s.world.env.zombies s.world.clock) s.world.clock) := by
  unfold handleSiginfo at h
  by_cases child : siginfo.signo = sigchld
  · simp only [if_pos child] at h
    obtain ⟨process, u, same, h⟩ := Prog.bind_eq_ok.mp h
    cases same
    obtain ⟨⟨⟩, v, reaped, h⟩ := Prog.bind_eq_ok.mp h
    cases h
    exact reapChildren_reaps reaped
  · simp only [if_neg child] at h
    split at h
    · cases h
    · split at h
      · cases h
      · cases h

theorem reads_reap {fd : RawFd} {signals : List Siginfo} {s t : Process}
    (h : tryUntilWouldBlock SignalHandlerError.taskFailure
      (fun siginfo => ServerM.sys (readSignal fd siginfo)) handleSiginfo signals s =
        (.ok .wouldBlock, t)) :
    ∃ calls, Reaps s t calls (answers s.world.env fd signals s.world.clock) := by
  induction signals generalizing s with
  | nil =>
      obtain ⟨r, u, called, h⟩ := Prog.bind_eq_ok.mp h
      rcases Prog.result_eq_ok.mp called with ⟨a, run, rfl⟩ | ⟨errno, run, rfl⟩
      · cases h
        exact ⟨1, attempt_reaps run⟩
      · by_cases blocks : errno = eagain
        · simp only [if_pos blocks] at h
          cases h
          exact ⟨1, attempt_reaps run⟩
        · simp only [if_neg blocks] at h
          cases h
  | cons siginfo rest ih =>
      rcases tryUntilWouldBlock_blocks h with run | ⟨a, u, v, run, handled, h⟩
      · have fault := readSignal_blocks (ServerM.sys_eq.mp run).1
        rw [answers, fault]
        exact ⟨1, attempt_reaps run⟩
      · have answered := readSignal_answered (ServerM.sys_eq.mp run).1
        have read := attempt_reaps run
        have early := handleSiginfo_reaps handled
        rw [read.env, read.clock] at early
        have first := read.trans early
        obtain ⟨calls, later⟩ := ih h
        rw [first.env, first.clock, ← Nat.add_assoc s.world.clock] at later
        have all := first.trans later
        rw [List.nil_append] at all
        rw [answers, answered]
        exact ⟨_, all⟩

def Genuine (infos : List ChildInfo) : Prop :=
  ∀ info ∈ infos, ∃ termination, info = Termination.siginfo termination info.pid info.uid

theorem handedOut_subset {env : Env} {supply : List ChildInfo} {n : Nat} :
    handedOut env supply n ⊆ supply := by
  induction supply generalizing n with
  | nil => exact List.Subset.refl []
  | cons child rest ih =>
      unfold handedOut
      split
      · exact List.nil_subset _
      · exact List.cons_subset_cons child ih

theorem answers_genuine {env : Env} {fd : RawFd} (genuine : ∀ n, Genuine (env.zombies n))
    (signals : List Siginfo)
    (n : Nat) : Genuine (answers env fd signals n) := by
  induction signals generalizing n with
  | nil => exact List.forall_mem_nil _
  | cons siginfo rest ih =>
      unfold answers
      split
      · exact List.forall_mem_nil _
      · exact List.forall_mem_append.mpr ⟨fun info mem => genuine _ info (handedOut_subset mem), ih _⟩

/-- Children for the siginfos, with ids from `first` on. -/
theorem exists_children (infos : List ChildInfo) (genuine : Genuine infos) (first : Nat) :
    ∃ l : List Ended, l.map Ended.siginfo = infos ∧
      l.map (fun e => e.child.id) = List.range' first infos.length := by
  induction infos generalizing first with
  | nil => exact ⟨[], rfl, rfl⟩
  | cons info infos ih =>
      obtain ⟨l, siginfos, ids⟩ :=
        ih (fun i mem => genuine i (List.mem_cons_of_mem _ mem)) (first + 1)
      obtain ⟨termination, same⟩ := genuine info List.mem_cons_self
      refine ⟨⟨⟨first, info.pid, info.uid⟩, termination⟩ :: l, ?_, ?_⟩
      · rw [List.map_cons, siginfos]
        exact congrArg (· :: infos) same.symm
      · rw [List.map_cons, ids]
        rfl

/-- Every run of the handler that returns `PollContinue` is one of the interleaved system: its
children are those the kernel hands out to the handler, they end at the right moments, and
they are reported alike. -/
theorem handleSignalfdEvents_interleaves {fd : RawFd} {s t : Process}
    (genuine : ∀ n, Genuine (s.world.env.zombies n))
    (run : handleSignalfdEvents fd s = (.ok .pollContinue, t)) :
    ∃ k k', Start k ∧ Relation.ReflTransGen Step k k' ∧ k'.control = .idle ∧
      k'.reaped.reverse.map Ended.siginfo =
        answers s.world.env fd (s.world.env.signals s.world.clock) s.world.clock ∧
      t.world.trace = (k'.reports.map fun r => (s.world.pid, r.deed)) ++ s.world.trace := by
  obtain ⟨process, u, same, run⟩ := Prog.bind_eq_ok.mp run
  cases same
  obtain ⟨result, v, looped, run⟩ := Prog.bind_eq_ok.mp run
  cases result with
  | early signo => cases run
  | wouldBlock =>
      cases run
      obtain ⟨calls, reaps⟩ := reads_reap looped
      obtain ⟨l, siginfos, ids⟩ := exists_children _ (answers_genuine genuine _ _) 0
      have start : Start ⟨.idle, l.map Ended.child, [], false, [], [], []⟩ :=
        ⟨rfl, rfl, rfl, rfl, rfl, by
          rw [List.map_map]
          exact ids ▸ List.nodup_range'⟩
      obtain ⟨k', steps, idle, reaped, reports⟩ :=
        round l ⟨.read, l.map Ended.child, [], false, [], [], []⟩ rfl rfl rfl
      refine ⟨_, k', start, .head (.call rfl) steps, idle, ?_, ?_⟩
      · rw [reaped, List.append_nil, List.reverse_reverse, siginfos]
      rw [reaps.trace l siginfos, reports, List.append_nil, List.map_reverse, List.map_map]
      rfl

end sequential

/-- Two children that exit before the function is called, and one that exits while they are reaped. -/
def first : Ended := ⟨⟨0, 7, 1000⟩, .exited 3⟩
def second : Ended := ⟨⟨1, 8, 1000⟩, .killed 9⟩
def third : Ended := ⟨⟨2, 9, 1001⟩, .exited 0⟩

def before : State := ⟨.idle, [first.child, second.child, third.child], [], false, [], [], []⟩
def after : State :=
  ⟨.read, [], [], false, [⟨9, 1001, 0⟩, ⟨8, 1000, 9⟩, ⟨7, 1000, 0x300⟩], [third, second, first],
    [third, second, first]⟩

/-- One signal stands for the first two, and the one of the third is read when it has long been
reaped. -/
theorem crowd_run : Relation.ReflTransGen Step before after := by
  refine .head (.exit first (by decide)) (.head (.exit second (by decide)) ?_)
  refine .head (.call rfl) (.head (.read rfl rfl) ?_)
  refine .head (.waitReaps first 0x300 rfl (by decide) rfl) (.head (.exit third (by decide)) ?_)
  refine .head (.waitReaps second 9 rfl (by decide) rfl)
    (.head (.waitReaps third 0 rfl (by decide) rfl) ?_)
  exact .head (.waitNone rfl rfl) (.head (.read rfl rfl) (.single (.waitNone rfl rfl)))

theorem reported_once_crowd : after.reports = after.reaped.map Ended.report ∧
    (after.reaped.map fun e => e.child.id).Nodup ∧ (∀ e ∈ after.reaped, e ∈ after.ended) ∧
    (after.control = .read → after.pending = false → ∀ e ∈ after.ended, e ∈ after.reaped) :=
  reported_once ⟨rfl, rfl, rfl, rfl, rfl, by decide⟩ crowd_run

end Sigchld
end Zygote
