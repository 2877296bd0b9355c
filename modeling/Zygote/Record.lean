import Zygote.FileDescriptors.Execute
import Zygote.Sockets

/-!
# The record of calls

Which calls of the record give a process a descriptor that only a server may hold, and
which act on one. The ledger is what a server keeps true of its record: who holds such a
descriptor, and that nothing older than the server is acted on.
-/
namespace Zygote
open Effect Descriptors

/-- The calls by which a server talks to its clients and to its epoll instance. -/
def Call.acts : Call → Bool
  | .accept _ | .recvmsg _ | .sendmsg _ _ | .epollAdd _ _ | .epollDel _ _ => true
  | _ => false

/-- The calls that make one of the server's own descriptors. -/
def Call.makes : Call → Bool
  | .socket | .accept _ | .epollCreate | .signalfd => true
  | _ => false

def Call.listens : Call → Option RawFd
  | .listen fd => some fd
  | _ => none

namespace Event

/-- The event gave the server the description: it made it, or made the number listen on it. -/
def Marks (event : Event) (fd : RawFd) (file : Nat) : Prop :=
  (event.made.isSome = true ∧ event.call.makes = true ∧ event.known = file) ∨
    (event.call.listens = some fd ∧ event.on = some file)

/-- The event is about descriptions that exist. -/
def Bounded (event : Event) (next : Nat) : Prop :=
  (event.made.isSome = true → event.known < next) ∧ ∀ file, event.on = some file → file < next

theorem Marks.lt {event : Event} {fd : RawFd} {file next : Nat} (h : event.Marks fd file)
    (bounded : event.Bounded next) : file < next := by
  rcases h with ⟨made, -, rfl⟩ | ⟨-, on⟩
  · exact bounded.1 made
  · exact bounded.2 file on

theorem Bounded.mono {event : Event} {next later : Nat} (h : event.Bounded next)
    (le : next ≤ later) : event.Bounded later :=
  ⟨fun made => (h.1 made).trans_le le, fun file on => (h.2 file on).trans_le le⟩

end Event

/-- The number refers to a description that was made for a server, or that this number
listens on for one. -/
def Privileged (w : World) (fd : RawFd) : Prop :=
  ∃ file, w.fds.fileOf fd = some file ∧ ∃ event ∈ w.log, event.Marks fd file

theorem Privileged.later {w w' : World} {fd : RawFd} (h : Privileged w fd)
    (behind : w'.fds.fileOf fd = w.fds.fileOf fd) (log : ∃ newer, w'.log = newer ++ w.log) :
    Privileged w' fd := by
  obtain ⟨file, before, event, mem, marks⟩ := h
  obtain ⟨newer, split⟩ := log
  exact ⟨file, behind.trans before, event, split ▸ List.mem_append_right _ mem, marks⟩

/-- The record of a server: only the held numbers are privileged, and since `old` it has
acted on no description below `N`. Its own numbers refer to later ones. -/
structure Ledger (N : Nat) (old : List Event) (held own : List RawFd) (w : World) : Prop where
  privileged : ∀ fd, Privileged w fd → fd ∈ held
  bounded : ∀ event ∈ w.log, event.Bounded w.fds.next
  logged : ∃ newer, w.log = newer ++ old ∧ ∀ event ∈ newer, event.call.acts = true →
    ∀ file, event.on = some file → N ≤ file
  own : ∀ fd ∈ own, ∀ file, w.fds.fileOf fd = some file → N ≤ file
  base : N ≤ w.fds.next
  limit : w.fds.limit ≤ 0x80000000
  releases : w.env.closeReleases = true

namespace Ledger
variable {N : Nat} {old : List Event} {held held' own own' : List RawFd} {w w' : World} {call : Call}

/-- Only the numbers that are open count. -/
theorem mono (h : Ledger N old held own w)
    (more : ∀ fd ∈ held, w.fds.isOpen fd = true → fd ∈ held')
    (less : ∀ fd ∈ own', fd ∈ own ∨ w.fds.isOpen fd = false) : Ledger N old held' own' w where
  privileged fd p := more fd (h.privileged fd p) (by
    obtain ⟨file, behind, -⟩ := p
    exact Table.isOpen_iff_fileOf.mpr ⟨file, behind⟩)
  bounded := h.bounded
  logged := h.logged
  own fd mem file behind := by
    rcases less fd mem with mem | closed
    · exact h.own fd mem file behind
    · rw [Table.isOpen_iff_fileOf.mpr ⟨file, behind⟩] at closed
      cases closed
  base := h.base
  limit := h.limit
  releases := h.releases

/-- An event that is put on the record. -/
theorem logged_cons {event : Event} (h : Ledger N old held own w)
    (acts : event.call.acts = true → ∀ file, event.on = some file → N ≤ file) :
    ∃ newer, event :: w.log = newer ++ old ∧ ∀ event ∈ newer, event.call.acts = true →
      ∀ file, event.on = some file → N ≤ file := by
  obtain ⟨newer, split, above⟩ := h.logged
  exact ⟨event :: newer, by rw [split, List.cons_append], List.forall_mem_cons.mpr ⟨acts, above⟩⟩

theorem on_bounded (w : World) (call : Call) {file : Nat}
    (h : call.target.bind w.fds.fileOf = some file) : file < w.fds.next := by
  obtain ⟨fd, -, behind⟩ := Option.bind_eq_some_iff.mp h
  exact Table.fileOf_lt behind

/-- A call that hands out no descriptor: numbers may only be given up. -/
theorem step (h : Ledger N old held own w)
    (log : w'.log = ⟨w.pid, call, call.target.bind w.fds.fileOf, w.fds.next, none⟩ :: w.log)
    (env : w'.env = w.env) (limit : w'.fds.limit = w.fds.limit) (next : w'.fds.next = w.fds.next)
    (files : ∀ fd file, w'.fds.fileOf fd = some file → w.fds.fileOf fd = some file)
    (mute : call.listens = none)
    (acts : call.acts = true → ∀ file, call.target.bind w.fds.fileOf = some file → N ≤ file) :
    Ledger N old held own w' where
  privileged fd := by
    rintro ⟨file, behind, event, mem, marks⟩
    rw [log] at mem
    rcases List.mem_cons.mp mem with rfl | mem
    · rcases marks with ⟨made, -⟩ | ⟨listens, -⟩
      · cases made
      · rw [mute] at listens
        cases listens
    · exact h.privileged fd ⟨file, files fd file behind, event, mem, marks⟩
  bounded := by
    rw [log, next]
    exact List.forall_mem_cons.mpr ⟨⟨(fun made => nomatch made), fun file => on_bounded w call⟩,
      h.bounded⟩
  logged := by rw [log]; exact h.logged_cons acts
  own fd mem file behind := h.own fd mem file (files fd file behind)
  base := next ▸ h.base
  limit := limit ▸ h.limit
  releases := env ▸ h.releases

theorem note (h : Ledger N old held own w) (call : Call) (mute : call.listens = none)
    (acts : call.acts = true → ∀ file, call.target.bind w.fds.fileOf = some file → N ≤ file) :
    Ledger N old held own (w.note call none) :=
  h.step rfl rfl rfl rfl (fun _ _ => id) mute acts

/-- A call that makes a descriptor, at a number that is free. -/
theorem made {n : RawFd} {cloexec : Bool} (h : Ledger N old held own w)
    (log : w'.log = ⟨w.pid, call, call.target.bind w.fds.fileOf, w.fds.next, some n⟩ :: w.log)
    (env : w'.env = w.env) (limit : w'.fds.limit = w.fds.limit)
    (next : w'.fds.next = w.fds.next + 1)
    (slot : ∀ m, w'.fds.slot m = if m = n then some ⟨w.fds.next, cloexec⟩ else w.fds.slot m)
    (mute : call.listens = none)
    (acts : call.acts = true → ∀ file, call.target.bind w.fds.fileOf = some file → N ≤ file) :
    Ledger N old (n :: held) (n :: own) w' := by
  have behind_new : ∀ {fd file}, w'.fds.fileOf fd = some file →
      fd = n ∧ file = w.fds.next ∨ fd ≠ n ∧ w.fds.fileOf fd = some file := by
    intro fd file behind
    rw [Table.fileOf, slot] at behind
    by_cases same : fd = n
    · rw [if_pos same] at behind
      exact Or.inl ⟨same, (Option.some.inj behind).symm⟩
    · rw [if_neg same] at behind
      exact Or.inr ⟨same, behind⟩
  refine ⟨?_, ?_, ?_, ?_, ?_, limit ▸ h.limit, env ▸ h.releases⟩
  · rintro fd ⟨file, behind, event, mem, marks⟩
    rcases behind_new behind with ⟨rfl, -⟩ | ⟨apart, before⟩
    · exact List.mem_cons_self
    · refine List.mem_cons_of_mem _ ?_
      rw [log] at mem
      rcases List.mem_cons.mp mem with rfl | mem
      · -- the new description is behind the new number only
        have lt := Table.fileOf_lt before
        rcases marks with ⟨-, -, rfl⟩ | ⟨listens, -⟩
        · exact absurd lt (lt_irrefl _)
        · rw [mute] at listens
          cases listens
      · exact h.privileged fd ⟨file, before, event, mem, marks⟩
  · rw [log, next]
    refine List.forall_mem_cons.mpr ⟨⟨fun _ => Nat.lt_succ_self _, fun file on => ?_⟩, ?_⟩
    · exact (on_bounded w call on).trans (Nat.lt_succ_self _)
    · exact fun event mem => (h.bounded event mem).mono (Nat.le_succ _)
  · rw [log]
    exact h.logged_cons acts
  · intro fd mem file behind
    rcases behind_new behind with ⟨-, rfl⟩ | ⟨apart, before⟩
    · exact h.base
    · exact h.own fd ((List.mem_cons.mp mem).resolve_left apart) file before
  · rw [next]
    exact h.base.trans (Nat.le_succ _)

/-- The number that is made to listen is held from then on. -/
theorem listened {n : RawFd} (h : Ledger N old held own w) :
    Ledger N old (n :: held) own (w.note (.listen n) none) where
  privileged fd := by
    rintro ⟨file, behind, event, mem, marks⟩
    rcases List.mem_cons.mp mem with rfl | mem
    · rcases marks with ⟨made, -⟩ | ⟨listens, -⟩
      · cases made
      · cases listens
        exact List.mem_cons_self
    · exact List.mem_cons_of_mem _ (h.privileged fd ⟨file, behind, event, mem, marks⟩)
  bounded := List.forall_mem_cons.mpr
    ⟨⟨(fun made => nomatch made), fun file => on_bounded w (.listen n)⟩, h.bounded⟩
  logged := h.logged_cons fun acts => nomatch acts
  own := h.own
  base := h.base
  limit := h.limit
  releases := h.releases

end Ledger

/-- The call neither makes a descriptor of a server nor acts for one. -/
def Call.Neutral (call : Call) : Prop :=
  call.makes = false ∧ call.listens = none ∧ call.acts = false

/-- What neutral calls put on the record, whatever they do to the table. -/
structure World.Records (w w' : World) : Prop where
  env : w'.env = w.env
  limit : w'.fds.limit = w.fds.limit
  next : w.fds.next ≤ w'.fds.next
  log : ∃ newer, w'.log = newer ++ w.log ∧
    ∀ event ∈ newer, event.call.Neutral ∧ event.Bounded w'.fds.next

/-- Calls that leave the tables alone; those that act are about certain descriptors. -/
structure World.Calm (about : RawFd → Prop) (w w' : World) : Prop where
  ages : w.Ages w'
  tables : w'.toTables = w.toTables
  log : ∃ newer, w'.log = newer ++ w.log ∧ ∀ event ∈ newer, event.made = none ∧
    event.call.listens = none ∧ event.on = event.call.target.bind w.fds.fileOf ∧
    (event.call.acts = true → ∃ fd, event.call.target = some fd ∧ about fd)

/-- Since `old`, one process has acted on no description below `N`. -/
def Logged (N : Nat) (old : List Event) (pid : Nat) (w : World) : Prop :=
  ∃ newer, w.log = newer ++ old ∧ ∀ event ∈ newer, event.pid = pid → event.call.acts = true →
    ∀ file, event.on = some file → N ≤ file

namespace World.Records
variable {u v w : World}

theorem refl (w : World) : w.Records w := ⟨rfl, rfl, le_refl _, [], rfl, List.forall_mem_nil _⟩

theorem trans (h : u.Records v) (k : v.Records w) : u.Records w := by
  obtain ⟨early, first, before⟩ := h.log
  obtain ⟨late, second, after⟩ := k.log
  refine ⟨k.env.trans h.env, k.limit.trans h.limit, h.next.trans k.next, late ++ early, ?_, ?_⟩
  · rw [second, first, List.append_assoc]
  · exact List.forall_mem_append.mpr
      ⟨after, fun event mem => ⟨(before event mem).1, (before event mem).2.mono k.next⟩⟩

theorem bind {ε α β : Type} {p : Prog World ε α} {f : α → Prog World ε β}
    (first : Prog.Within World.Records p) (rest : ∀ a, Prog.Within World.Records (f a)) :
    Prog.Within World.Records (p >>= f) := Prog.Within.bind trans first rest

/-- One neutral call. -/
theorem call {call : Call} {made : Option RawFd} (neutral : call.Neutral)
    (log : w.log = (v.note call made).log) (env : w.env = v.env) (limit : w.fds.limit = v.fds.limit)
    (next : v.fds.next ≤ w.fds.next) (grows : made.isSome = true → v.fds.next < w.fds.next) :
    v.Records w :=
  ⟨env, limit, next, [_], log, List.forall_mem_singleton.mpr
    ⟨neutral, grows, fun _ on => (Ledger.on_bounded v call on).trans_le next⟩⟩

end World.Records

namespace World.Calm
variable {about more : RawFd → Prop} {u v w : World}

theorem refl (w : World) : w.Calm about w := ⟨.refl w, rfl, [], rfl, List.forall_mem_nil _⟩

theorem trans (h : u.Calm about v) (k : v.Calm about w) : u.Calm about w := by
  obtain ⟨early, first, before⟩ := h.log
  obtain ⟨late, second, after⟩ := k.log
  refine ⟨h.ages.trans k.ages, k.tables.trans h.tables, late ++ early, ?_, ?_⟩
  · rw [second, first, List.append_assoc]
  · rw [h.tables] at after
    exact List.forall_mem_append.mpr ⟨after, before⟩

theorem grows (h : v.Calm about w) : ∃ newer, w.log = newer ++ v.log :=
  h.log.imp fun _ => And.left

theorem privileged {fd : RawFd} (h : v.Calm about w) (marked : Privileged v fd) : Privileged w fd :=
  marked.later (by rw [h.tables]) h.grows

theorem bind {ε α β : Type} {p : Prog World ε α} {f : α → Prog World ε β}
    (first : Prog.Within (World.Calm about) p) (rest : ∀ a, Prog.Within (World.Calm about) (f a)) :
    Prog.Within (World.Calm about) (p >>= f) := Prog.Within.bind trans first rest

theorem call {call : Call} (log : w.log = (v.note call none).log) (env : w.env = v.env)
    (pid : w.pid = v.pid) (tables : w.toTables = v.toTables) (mute : call.listens = none)
    (acts : call.acts = true → ∃ fd, call.target = some fd ∧ about fd) : v.Calm about w :=
  ⟨⟨env, ⟨[_], log⟩, .inl pid⟩, tables, [_], log, List.forall_mem_singleton.mpr ⟨rfl, mute, rfl, acts⟩⟩

end World.Calm

section calm
variable {about : RawFd → Prop} {α : Type} {call : Call}

theorem attempt_calm {act : World → Except Errno (α × Option RawFd × Tables)}
    (unchanged : ∀ w a made tables, act w = .ok (a, made, tables) →
      made = none ∧ tables = w.toTables) (mute : call.listens = none)
    (acts : call.acts = true → ∃ fd, call.target = some fd ∧ about fd) :
    Prog.Within (World.Calm about) (attempt call act) := by
  intro w
  have noted : w.Calm about (w.note call none) := .call rfl rfl rfl rfl mute acts
  unfold attempt
  split
  · exact noted
  · split
    · exact noted
    · next a made tables acted =>
      obtain ⟨rfl, rfl⟩ := unchanged _ a made tables acted
      exact noted

theorem plainCall_calm {value : α} (mute : call.listens = none) (idle : call.acts = false) :
    Prog.Within (World.Calm about) (plainCall call value) := by
  refine attempt_calm (fun w a made tables acted => ?_) mute fun acts => ?_
  · cases acted
    exact ⟨rfl, rfl⟩
  · rw [idle] at acts
    cases acts

end calm

namespace Logged
variable {N : Nat} {old : List Event} {pid : Nat} {v w : World}

/-- A process that is another one, or that does not act, adds nothing that counts. -/
theorem later {calls : Call → Prop} {deeds : Deed → Prop} (h : Logged N old pid w)
    (does : w.Does calls deeds v)
    (apart : w.pid ≠ pid ∨ ∀ call, calls call → call.acts = false) : Logged N old pid v := by
  obtain ⟨newer, split, above⟩ := h
  obtain ⟨late, more, all⟩ := does.log
  refine ⟨late ++ newer, by rw [more, split, List.append_assoc], ?_⟩
  refine List.forall_mem_append.mpr ⟨fun event mem same acts => ?_, above⟩
  rcases apart with other | mute
  · exact absurd ((all event mem).1.symm.trans same) other
  · rw [mute _ (all event mem).2] at acts
    cases acts

end Logged

namespace Ledger
variable {N : Nat} {old : List Event} {held own : List RawFd} {w w' : World}

/-- Calls that leave the tables alone and act on the server's own numbers only. -/
theorem calm (h : Ledger N old held own w) (calm : w.Calm (· ∈ own) w') :
    Ledger N old held own w' := by
  obtain ⟨late, split, all⟩ := calm.log
  have fds : w'.fds = w.fds := congrArg Tables.fds calm.tables
  refine ⟨?_, ?_, ?_, ?_, ?_, ?_, ?_⟩
  · rintro fd ⟨file, behind, event, mem, marks⟩
    rw [fds] at behind
    rw [split] at mem
    rcases List.mem_append.mp mem with new | mem
    · obtain ⟨unmade, mute, -, -⟩ := all event new
      rcases marks with ⟨made, -⟩ | ⟨listens, -⟩
      · rw [unmade] at made
        cases made
      · rw [mute] at listens
        cases listens
    · exact h.privileged fd ⟨file, behind, event, mem, marks⟩
  · rw [split, fds]
    refine List.forall_mem_append.mpr ⟨fun event new => ?_, h.bounded⟩
    obtain ⟨unmade, -, on, -⟩ := all event new
    refine ⟨fun made => ?_, fun file behind => on_bounded w event.call (on ▸ behind)⟩
    rw [unmade] at made
    cases made
  · obtain ⟨newer, before, above⟩ := h.logged
    refine ⟨late ++ newer, by rw [split, before, List.append_assoc], ?_⟩
    refine List.forall_mem_append.mpr ⟨fun event new acts file behind => ?_, above⟩
    obtain ⟨-, -, on, about⟩ := all event new
    obtain ⟨fd, target, mem⟩ := about acts
    rw [on, target] at behind
    exact h.own fd mem file behind
  · rw [fds]
    exact h.own
  · rw [fds]
    exact h.base
  · rw [fds]
    exact h.limit
  · rw [calm.ages.env]
    exact h.releases

/-- Neutral calls, after which a number refers to what it did or to something new. -/
theorem records (h : Ledger N old held own w) (records : w.Records w')
    (files : ∀ fd file, w'.fds.fileOf fd = some file →
      w.fds.fileOf fd = some file ∨ w.fds.next ≤ file) : Ledger N old held own w' := by
  obtain ⟨late, split, all⟩ := records.log
  refine ⟨?_, ?_, ?_, ?_, h.base.trans records.next, records.limit ▸ h.limit,
    records.env ▸ h.releases⟩
  · rintro fd ⟨file, behind, event, mem, marks⟩
    rw [split] at mem
    rcases List.mem_append.mp mem with new | mem
    · obtain ⟨⟨mute, deaf, -⟩, -⟩ := all event new
      rcases marks with ⟨-, makes, -⟩ | ⟨listens, -⟩
      · rw [mute] at makes
        cases makes
      · rw [deaf] at listens
        cases listens
    · have lt := marks.lt (h.bounded event mem)
      rcases files fd file behind with same | later
      · exact h.privileged fd ⟨file, same, event, mem, marks⟩
      · exact absurd lt (not_lt.mpr later)
  · rw [split]
    refine List.forall_mem_append.mpr ⟨fun event new => (all event new).2, fun event mem => ?_⟩
    exact (h.bounded event mem).mono records.next
  · obtain ⟨newer, before, above⟩ := h.logged
    refine ⟨late ++ newer, by rw [split, before, List.append_assoc], ?_⟩
    refine List.forall_mem_append.mpr ⟨fun event new acts => ?_, above⟩
    rw [(all event new).1.2.2] at acts
    cases acts
  · intro fd mem file behind
    rcases files fd file behind with same | later
    · exact h.own fd mem file same
    · exact h.base.trans later

/-- A new ledger for what is to come: nothing is held for one's own yet. -/
theorem renew (h : Ledger N old held own w) : Ledger w.fds.next w.log held [] w where
  privileged := h.privileged
  bounded := h.bounded
  logged := ⟨[], rfl, List.forall_mem_nil _⟩
  own _ mem := nomatch mem
  base := le_refl _
  limit := h.limit
  releases := h.releases

end Ledger
end Zygote
