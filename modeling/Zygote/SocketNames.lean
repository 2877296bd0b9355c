import Mathlib.Data.List.TakeWhile
import Zygote.FileDescriptors.Info
import Zygote.Sockets

/-!
# The names of sockets

An address is built in a structure with room for 108 bytes, and the name the kernel reports
is read back from one. Both go wrong at the same place: a path that leaves no room for its
end.
-/
namespace Zygote
open Effect Descriptors

section written
variable {path : String} {family : Nat}

theorem take_zeroPadded {bytes : Bytes} : (zeroPadded bytes).take bytes.length = bytes :=
  List.take_left

theorem length_zeroPadded {bytes : Bytes} (fits : bytes.length ≤ sunPathLen) :
    (zeroPadded bytes).length = sunPathLen := by
  rw [zeroPadded, List.length_append, List.length_replicate, Nat.add_sub_cancel' fits]

/-- A path that leaves room for its end is bound as it stands. -/
theorem covered_boundSocketAddress (short : path.toUTF8.data.toList.length < sunPathLen) :
    (boundSocketAddress path family).covered = ⟨family, path.toUTF8.data.toList⟩ := by
  have whole : path.toUTF8.data.toList.take (sunPathLen - 1) = path.toUTF8.data.toList :=
    List.take_of_length_le (Nat.le_pred_of_lt short)
  simp only [SocketAddr.covered, boundSocketAddress, whole, Nat.add_sub_cancel_left, take_zeroPadded]

theorem covered_abstractSocketAddress {name : String}
    (short : name.toUTF8.data.toList.length < sunPathLen) :
    (abstractSocketAddress name family).covered = ⟨family, 0 :: name.toUTF8.data.toList⟩ := by
  have whole : name.toUTF8.data.toList.take (sunPathLen - 1) = name.toUTF8.data.toList :=
    List.take_of_length_le (Nat.le_pred_of_lt short)
  have length : sunPathOffset + name.toUTF8.data.toList.length + 1 - sunPathOffset =
      (0 :: name.toUTF8.data.toList).length := by
    rw [List.length_cons, Nat.add_assoc, Nat.add_sub_cancel_left]
  simp only [SocketAddr.covered, abstractSocketAddress, whole, length, take_zeroPadded]

theorem kernelName_path {bytes : Bytes} (nonempty : bytes ≠ []) (free : 0 ∉ bytes) (rest : Bytes)
    (ended : rest = [] ∨ rest.head? = some 0) : kernelName (bytes ++ rest) = bytes ++ [0] := by
  have whole : (bytes ++ rest).takeWhile (· ≠ 0) = bytes := by
    have all : ∀ byte ∈ bytes, decide (byte ≠ 0) = true :=
      fun byte mem => decide_eq_true fun zero => free (zero ▸ mem)
    rw [List.takeWhile_append_of_pos all]
    rcases ended with rfl | ended
    · rw [List.takeWhile_nil, List.append_nil]
    · obtain ⟨tail, rfl⟩ := List.head?_eq_some_iff.mp ended
      rw [List.takeWhile_cons_of_neg (by decide), List.append_nil]
  cases bytes with
  | nil => exact absurd rfl nonempty
  | cons first tail =>
      have start : first ≠ 0 := fun zero => free (zero ▸ List.mem_cons_self)
      rw [List.cons_append] at whole ⊢
      rw [kernelName, whole]
      · intro none
        cases none
      · intro name shape
        exact start (List.cons.inj shape).1

/-- The length stays inside the structure and covers exactly the given bytes. -/
def SocketAddr.Denotes (address : SocketAddr) (bytes : Bytes) : Prop :=
  address.socklen ≤ sunPathOffset + sunPathLen ∧ address.covered.path = bytes

/-- The path that fills the structure is cut, and the terminator is taken for its end. -/
theorem covered_filling (length : path.toUTF8.data.toList.length = sunPathLen) :
    (boundSocketAddress path family).covered =
      ⟨family, path.toUTF8.data.toList.take (sunPathLen - 1) ++ [0]⟩ := by
  have cut : (path.toUTF8.data.toList.take (sunPathLen - 1)).length = sunPathLen - 1 := by
    rw [List.length_take, length]
    rfl
  simp only [SocketAddr.covered, boundSocketAddress, length, Nat.add_sub_cancel_left, zeroPadded, cut]
  rw [List.take_of_length_le]
  · rfl
  · rw [List.length_append, cut]
    decide

theorem boundSocketAddress_denotes_iff (free : 0 ∉ path.toUTF8.data.toList) :
    (boundSocketAddress path family).Denotes path.toUTF8.data.toList ↔
      path.toUTF8.data.toList.length < sunPathLen := by
  constructor
  · rintro ⟨inside, whole⟩
    have fits : path.toUTF8.data.toList.length ≤ sunPathLen := by
      simp only [boundSocketAddress] at inside
      omega
    refine lt_of_le_of_ne fits fun filling => free ?_
    rw [covered_filling filling] at whole
    rw [← whole]
    exact List.mem_append_right _ List.mem_cons_self
  · intro short
    refine ⟨?_, by rw [covered_boundSocketAddress short]⟩
    simp only [boundSocketAddress]
    omega

theorem abstractSocketAddress_denotes_iff {name : String} :
    (abstractSocketAddress name family).Denotes (0 :: name.toUTF8.data.toList) ↔
      name.toUTF8.data.toList.length < sunPathLen := by
  constructor
  · rintro ⟨inside, -⟩
    simp only [abstractSocketAddress] at inside
    omega
  · intro short
    refine ⟨?_, by rw [covered_abstractSocketAddress short]⟩
    simp only [abstractSocketAddress]
    omega

/-- A socket is created under the name the kernel makes of an address of proper length. -/
theorem createBoundSocket_ok {sockType : Nat} {w w' : World} {fd : RawFd}
    (h : createBoundSocket path sockType w = (.ok fd, w')) :
    path.toUTF8.data.toList.length ≤ sunPathLen ∧
      w'.trace = (w'.pid, .bound (boundSocketAddress path afUnix).covered) :: w.trace ∧
      ∃ f, w'.fds.contents fd = some f ∧
        f.name = ⟨afUnix, kernelName (boundSocketAddress path afUnix).covered.path⟩ := by
  obtain ⟨socketFd, u, made, h⟩ := Prog.bind_eq_ok.mp h
  obtain ⟨⟨⟩, v, bound, h⟩ := Prog.bind_eq_ok.mp h
  cases h
  obtain ⟨x, opened, rfl⟩ := doing_ok_iff.mp bound
  obtain ⟨-, f, t, contents, act, rfl⟩ := onOpen_ok_iff.mp opened
  obtain ⟨-, _, _, -, -, rfl⟩ := makeFd_ok_iff.mp made
  split at act
  · cases act
  · split at act
    · cases act
    · next allowed =>
      cases act
      have inside := (not_or.mp (not_or.mp allowed).2).1
      simp only [boundSocketAddress] at inside
      let named : OpenFile → OpenFile := fun f =>
        { f with name := ⟨afUnix, kernelName (boundSocketAddress path afUnix).covered.path⟩ }
      refine ⟨by omega, rfl, named f, ?_, rfl⟩
      exact (Table.update_contents fd named).trans (congrArg (Option.map named) contents)

/-- Whatever socket is created for the path is known by that path. -/
def BindsOnly (path : String) : Prop :=
  ∀ sockType w fd w' f, createBoundSocket path sockType w = (.ok fd, w') →
    w'.fds.contents fd = some f → f.name = ⟨afUnix, path.toUTF8.data.toList ++ [0]⟩

/-- Every path but the one that fills the structure is bound as it is, or refused. -/
theorem bindsOnly (free : 0 ∉ path.toUTF8.data.toList) (nonempty : path.toUTF8.data.toList ≠ [])
    (apart : path.toUTF8.data.toList.length ≠ sunPathLen) : BindsOnly path := by
  intro sockType w fd w' f created contents
  obtain ⟨fits, -, g, bound, name⟩ := createBoundSocket_ok created
  rw [contents] at bound
  cases bound
  have known := kernelName_path nonempty free [] (Or.inl rfl)
  rw [List.append_nil] at known
  rw [name, covered_boundSocketAddress (lt_of_le_of_ne fits apart), known]

/-- Both addresses denote the given name, and no socket is bound under another, exactly when
the name leaves room for a null byte. -/
theorem socketAddresses_denote_iff (nonempty : path.toUTF8.data.toList ≠ [])
    (free : 0 ∉ path.toUTF8.data.toList) :
    ((boundSocketAddress path family).Denotes path.toUTF8.data.toList ∧
        (abstractSocketAddress path family).Denotes (0 :: path.toUTF8.data.toList) ∧ BindsOnly path) ↔
      path.toUTF8.data.toList.length < sunPathLen := by
  rw [boundSocketAddress_denotes_iff free, abstractSocketAddress_denotes_iff]
  constructor
  · exact And.left
  · intro short
    exact ⟨short, short, bindsOnly free nonempty short.ne⟩

theorem socketAddresses_denote_zygote :
    ((boundSocketAddress "/run/zygote" afUnix).Denotes "/run/zygote".toUTF8.data.toList ∧
        (abstractSocketAddress "/run/zygote" afUnix).Denotes (0 :: "/run/zygote".toUTF8.data.toList) ∧
        BindsOnly "/run/zygote") ↔
      "/run/zygote".toUTF8.data.toList.length < sunPathLen :=
  socketAddresses_denote_iff (by decide) (by decide)

def fillingPath : String := String.ofList ('/' :: List.replicate 107 'a')

theorem socketAddresses_not_denote : ¬∀ path : String, path.toUTF8.data.toList ≠ [] →
    0 ∉ path.toUTF8.data.toList →
    (boundSocketAddress path afUnix).Denotes path.toUTF8.data.toList ∧
      (abstractSocketAddress path afUnix).Denotes (0 :: path.toUTF8.data.toList) ∧ BindsOnly path := by
  intro claim
  have length : fillingPath.toUTF8.data.toList.length = sunPathLen := by decide +kernel
  have free : 0 ∉ fillingPath.toUTF8.data.toList := by decide +kernel
  have denotes := (claim fillingPath (by decide +kernel) free).1
  exact absurd (boundSocketAddress_denotes_iff free |>.mp denotes) (by rw [length]; decide)

end written

/-- A name the kernel can report for a socket of the Unix family. -/
inductive UnixName where
  | unnamed
  | abstract (name : Bytes) (fits : name.length < sunPathLen)
  | path (text : Bytes) (nonempty : text ≠ []) (free : 0 ∉ text) (fits : text.length ≤ sunPathLen)

namespace UnixName

/-- An abstract name stands behind its null byte, a path is reported with its end. -/
def reported : UnixName → SockAddr
  | .unnamed => .unnamed
  | .abstract name _ => ⟨afUnix, 0 :: name⟩
  | .path text _ _ _ => ⟨afUnix, text ++ [0]⟩

def address : UnixName → Option SocketAddress
  | .unnamed => none
  | .abstract name _ => (String.fromUTF8? name.toByteArray).map .abstract
  | .path text _ _ _ => (String.fromUTF8? text.toByteArray).map .path

/-- A path whose end is reported past the structure. -/
def Filling : UnixName → Prop
  | .path text _ _ _ => text.length = sunPathLen
  | _ => False

theorem abstract_ne {name : Bytes} {fits} : UnixName.abstract name fits ≠ .unnamed := by
  intro same
  cases same

theorem path_ne {text : Bytes} {nonempty free fits} :
    UnixName.path text nonempty free fits ≠ .unnamed := by
  intro same
  cases same

end UnixName

section read
variable {w : World} {fd : RawFd} {own : UnixName} {peer : Option UnixName}
open Effect FileDescriptorInfo UnixName

/-- A socket with its own name and that of its peer, if it has one. -/
structure Named (w : World) (fd : RawFd) (own : UnixName) (peer : Option UnixName) : Prop where
  getsockname : w.getsockname fd = .ok (SockAddr.named own.reported)
  getpeername : w.getpeername fd = match peer with
    | none => .err enotconn
    | some peer => .ok (SockAddr.named peer.reported)

def deciding : UnixName → Option UnixName → UnixName
  | .unnamed, peer => peer.getD .unnamed
  | own, _ => own

/-- Reading does not panic, and what there is to be read is read. -/
def Reads {ε α : Type} (read : Outcome ε α) (value : Option α) : Prop :=
  read.isPanic = false ∧ ∀ a, value = some a → read = .ok a

theorem Reads.map {ε α β : Type} {read : Outcome ε α} {value : Option α} (h : Reads read value)
    (f : α → β) : Reads (f <$> read) (value.map f) := by
  refine ⟨?_, fun b found => ?_⟩
  · have calm := h.1
    cases read with
    | ok a => rfl
    | err e => rfl
    | panic m => cases calm
  · obtain ⟨a, here, rfl⟩ := Option.map_eq_some_iff.mp found
    rw [h.2 a here]
    rfl

/-- The outcome of reading the names: the very name that decides, or an error without one. -/
def Recovers (own : UnixName) (peer : Option UnixName)
    (read : Outcome FileDescriptorInfoError FileDescriptorInfo) : Prop :=
  match own, peer with
  | .unnamed, none | .unnamed, some .unnamed => read.isErr = true
  | .unnamed, some peer => Reads read (peer.address.map .connectedSocket)
  | own, _ => Reads read (own.address.map .boundSocket)

theorem arrayString_reads {bytes : Bytes} {nameSize : Nat} (fits : bytes.length ≤ sunPathLen) :
    Reads (arrayString bytes nameSize) (String.fromUTF8? bytes.toByteArray) := by
  have room : bytes.length ≤ bufferSizeStrings := fits.trans (by decide)
  unfold arrayString Reads
  cases String.fromUTF8? bytes.toByteArray with
  | none => simp
  | some text => simp [room]

theorem fromBytesWithNul_path {text : Bytes} (free : 0 ∉ text) :
    fromBytesWithNul (text ++ [0]) = .ok text := by
  have whole : (text ++ [0]).takeWhile (· != 0) = text := by
    have all : ∀ byte ∈ text, (byte != 0) = true :=
      fun byte mem => bne_iff_ne.mpr fun zero => free (zero ▸ mem)
    rw [List.takeWhile_append_of_pos all, List.takeWhile_cons_of_neg (by decide), List.append_nil]
  rw [fromBytesWithNul, whole, if_pos rfl]

theorem getSocketAddress_path {text : Bytes} (nonempty : text ≠ []) (free : 0 ∉ text)
    (fits : text.length ≤ sunPathLen) :
    Reads (getSocketAddress (text ++ [0])) ((String.fromUTF8? text.toByteArray).map .path) := by
  have read : getSocketAddress (text ++ [0]) = .path <$> arrayString text (text ++ [0]).length := by
    cases text with
    | nil => exact absurd rfl nonempty
    | cons first rest =>
        have start : first ≠ 0 := fun zero => free (zero ▸ List.mem_cons_self)
        have bytes := fromBytesWithNul_path free
        rw [List.cons_append] at bytes ⊢
        rw [getSocketAddress, bytes, Outcome.bind_ok]
        intro name shape
        exact start (List.cons.inj shape).1
  rw [read]
  exact (arrayString_reads fits).map _

/-- A reported name is read back unless it fills the structure: then the slice of it panics. -/
theorem readName (name : UnixName) (named : name ≠ .unnamed) :
    (¬name.Filling → Reads (sunBytes name.reported.path >>= getSocketAddress) name.address) ∧
      (name.Filling → (sunBytes name.reported.path >>= getSocketAddress).isPanic = true) := by
  cases name with
  | unnamed => exact absurd rfl named
  | abstract name fits =>
      refine ⟨fun _ => ?_, False.elim⟩
      have inside : (0 :: name).length ≤ sunPathSize := fits
      rw [UnixName.reported, sunBytes, if_pos inside, Outcome.bind_ok, getSocketAddress]
      exact (arrayString_reads fits.le).map _
  | path text nonempty free fits =>
      rw [UnixName.reported, sunBytes]
      constructor
      · intro short
        have inside : (text ++ [0]).length ≤ sunPathSize := by
          rw [List.length_append]
          exact lt_of_le_of_ne fits short
        rw [if_pos inside, Outcome.bind_ok]
        exact getSocketAddress_path nonempty free fits
      · intro filling
        have past : ¬(text ++ [0]).length ≤ sunPathSize := by
          rw [List.length_append, show text.length = sunPathLen from filling]
          decide
        rw [if_neg past]
        rfl

theorem reads_name_iff {β : Type} (name : UnixName) (named : name ≠ .unnamed) (f : SocketAddress → β) :
    Reads (f <$> (sunBytes name.reported.path >>= getSocketAddress)) (name.address.map f) ↔
      ¬name.Filling := by
  obtain ⟨short, filling⟩ := readName name named
  constructor
  · intro reads fills
    have panics := filling fills
    have calm := reads.1
    revert panics calm
    cases (sunBytes name.reported.path >>= getSocketAddress) with
    | ok _ | err _ => exact fun panics => nomatch panics
    | panic _ => exact fun _ calm => nomatch calm
  · exact fun fits => (short fits).map f

theorem named_reported {name : UnixName} (named : name ≠ .unnamed) :
    SockAddr.named name.reported = some name.reported.path := by
  cases name with
  | unnamed => exact absurd rfl named
  | abstract | path => simp [SockAddr.named, UnixName.reported]

/-- The names of a socket are recovered without a panic exactly when the one that decides is
no path of 108 bytes. -/
theorem getSocketInfo_recovers_iff (socket : Named w fd own peer) :
    Recovers own peer (getSocketInfo w fd) ↔ ¬(deciding own peer).Filling := by
  have bound : own ≠ .unnamed → getSocketInfo w fd =
      .boundSocket <$> (sunBytes own.reported.path >>= getSocketAddress) := by
    intro named
    simp only [getSocketInfo, socket.getsockname, named_reported named, Outcome.mapErr, Outcome.bind_ok]
  cases own with
  | abstract name fits =>
      rw [bound abstract_ne]
      exact reads_name_iff _ abstract_ne _
  | path text nonempty free fits =>
      rw [bound path_ne]
      exact reads_name_iff _ path_ne _
  | unnamed =>
      have turn : SockAddr.named UnixName.unnamed.reported = none := rfl
      have peered := socket.getpeername
      cases peer with
      | none =>
          simp only [getSocketInfo, socket.getsockname, turn, peered, Outcome.mapErr, Outcome.bind_ok,
            Outcome.bind_err]
          exact iff_of_true rfl id
      | some peer =>
          have connected : peer ≠ .unnamed → getSocketInfo w fd =
              .connectedSocket <$> (sunBytes peer.reported.path >>= getSocketAddress) := by
            intro named
            simp only [getSocketInfo, socket.getsockname, turn, peered, named_reported named,
              Outcome.mapErr, Outcome.ofOption, Outcome.bind_ok]
          cases peer with
          | unnamed =>
              simp only [getSocketInfo, socket.getsockname, turn, peered, Outcome.mapErr,
                Outcome.ofOption, Outcome.bind_ok, Outcome.bind_err]
              exact iff_of_true rfl id
          | abstract name fits =>
              rw [connected abstract_ne]
              exact reads_name_iff _ abstract_ne _
          | path text nonempty free fits =>
              rw [connected path_ne]
              exact reads_name_iff _ path_ne _

def holding (name : SockAddr) : World := .boot .calm [(3, { OpenFile.socket 7 sockSeqpacket with name })]

theorem getSocketInfo_recovers_zygote :
    Recovers (.path "/run/zygote".toUTF8.data.toList (by decide) (by decide) (by decide)) none
        (getSocketInfo (holding ⟨afUnix, "/run/zygote".toUTF8.data.toList ++ [0]⟩) 3) ↔
      ¬(deciding (.path "/run/zygote".toUTF8.data.toList (by decide) (by decide) (by decide))
        none).Filling :=
  getSocketInfo_recovers_iff ⟨rfl, rfl⟩

theorem getSocketInfo_panics : ¬∀ w fd own peer, Named w fd own peer →
    Recovers own peer (getSocketInfo w fd) := by
  intro claim
  let text : Bytes := List.replicate sunPathLen 97
  have recovers := claim (holding ⟨afUnix, text ++ [0]⟩) 3
    (.path text (by decide) (by decide) (by decide)) none ⟨rfl, rfl⟩
  have calm : (getSocketInfo (holding ⟨afUnix, text ++ [0]⟩) 3).isPanic = false := recovers.1
  revert calm
  decide

end read
end Zygote
