import OpenVrrp.Service.Reception
import OpenVrrp.Socket.Bounds
import OpenVrrp.Util.Internet
import Mathlib.Logic.Function.Basic

/-! Which datagrams reach the protocol, and what the others leave behind: statistics of the
services that are told about an error. The code's checksum stops before an odd last byte, so
that byte is neither protected nor needed. -/
namespace OpenVrrp

namespace VrrpService

def apartFromErrors (s : VrrpService) : VrrpService :=
  { s with
    statsAdvIntervalErrors := 0
    statsIpTtlErrors := 0
    statsProtocolErrReason := .noError
    statsRcvdInvalidTypePackets := 0
    statsPacketLengthErrors := 0 }

theorem onIncomingVrrpError_apart (s : VrrpService) (error : ListenerError) :
    (s.onIncomingVrrpError error).apartFromErrors = s.apartFromErrors := by
  cases error <;> rfl

end VrrpService

namespace Call

variable {ι : Type}

def delivered : Call ι → Option ι
  | .onIncomingVrrpPacket listener .. => some listener
  | .onIncomingVrrpError .. => none

def deliveredTo (calls : List (Call ι)) : List ι := calls.filterMap delivered

variable [DecidableEq ι]

def apply (services : ι → VrrpService) : Call ι → (ι → VrrpService) × List Effect
  | .onIncomingVrrpPacket listener _ address _ priority interval addresses =>
    let outcome := (services listener).onIncomingVrrpPacket address priority interval addresses
    (Function.update services listener outcome.1, outcome.2)
  | .onIncomingVrrpError listener _ _ error =>
    (Function.update services listener ((services listener).onIncomingVrrpError error), [])

def applyAll (services : ι → VrrpService) : List (Call ι) → (ι → VrrpService) × List Effect
  | [] => (services, [])
  | call :: rest =>
    let now := call.apply services
    let later := applyAll now.1 rest
    (later.1, now.2 ++ later.2)

theorem applyAll_errors {calls : List (Call ι)} (errors : deliveredTo calls = [])
    (services : ι → VrrpService) : (applyAll services calls).2 = [] ∧
      ∀ i, ((applyAll services calls).1 i).apartFromErrors = (services i).apartFromErrors := by
  induction calls generalizing services with
  | nil => exact ⟨rfl, fun _ => rfl⟩
  | cons call rest ih =>
    cases call with
    | onIncomingVrrpPacket => simp [deliveredTo, delivered] at errors
    | onIncomingVrrpError listener interface virtualRouterId error =>
      have later : deliveredTo rest = [] := by simpa [deliveredTo, delivered] using errors
      obtain ⟨silent, same⟩ := ih later
        (Function.update services listener ((services listener).onIncomingVrrpError error))
      refine ⟨silent, fun i => ?_⟩
      apply (same i).trans
      by_cases here : i = listener
      · subst here
        rw [Function.update_self]
        exact (services i).onIncomingVrrpError_apart error
      · rw [Function.update_of_ne here]

end Call

namespace Datagram

def vrrpLength (d : Datagram) : Nat := d.totalLength - d.ihl * 4

def vrrpByte (d : Datagram) (i : Nat) : UInt8 := d.buffer (d.ihl * 4 + i)

def Short (d : Datagram) : Prop := d.vrrpLength < 8

/-- Length, version and the code's own checksum are right. -/
def Sound (d : Datagram) : Prop :=
  8 ≤ d.vrrpLength ∧ upperNibble (d.vrrpByte 0) = 3 ∧
    (d.dstAddress.family = .unspec ∨ (Util.checksum d.buffer (d.ihl * 4) d.vrrpLength
      d.srcAddress d.dstAddress protocolVrrp).value = 0)

def WrongType (d : Datagram) : Prop := d.Sound ∧ lowerNibble (d.vrrpByte 0) ≠ 1

def Addresses (d : Datagram) (virtualRouterId : UInt8) : Prop :=
  d.Sound ∧ lowerNibble (d.vrrpByte 0) = 1 ∧ d.vrrpByte 1 = virtualRouterId

def WrongTtl (d : Datagram) (virtualRouterId : UInt8) : Prop :=
  d.Addresses virtualRouterId ∧ d.buffer 8 ≠ 255

/-- It is shorter than its address count demands, and nothing else is wrong. -/
def Incomplete (d : Datagram) (virtualRouterId : UInt8) : Prop :=
  d.Addresses virtualRouterId ∧ d.buffer 8 = 255 ∧
    d.vrrpLength < 8 + 4 * (d.vrrpByte 3).toNat

/-- The pseudo-header and the first `size` bytes of the VRRP part. -/
def checksummed (d : Datagram) (size : Nat) : List UInt8 :=
  Util.pseudoBytes .inet d.srcAddress.data d.dstAddress.data 112 d.vrrpLength ++
    Memory.slice d.buffer (d.ihl * 4) size

/-- The Internet checksum over the pseudo-header and these bytes, which hold the checksum that
was sent, comes out as zero. -/
def Verifies (d : Datagram) (size : Nat) : Prop :=
  Util.internetChecksum (d.checksummed size) = [0, 0]

instance (d : Datagram) (size : Nat) : Decidable (d.Verifies size) :=
  inferInstanceAs (Decidable (_ = _))
instance (d : Datagram) : Decidable d.Short := inferInstanceAs (Decidable (_ < _))
instance (d : Datagram) : Decidable d.Sound := inferInstanceAs (Decidable (_ ∧ _))
instance (d : Datagram) : Decidable d.WrongType := inferInstanceAs (Decidable (_ ∧ _))
instance (d : Datagram) (virtualRouterId : UInt8) : Decidable (d.Addresses virtualRouterId) :=
  inferInstanceAs (Decidable (_ ∧ _))
instance (d : Datagram) (virtualRouterId : UInt8) : Decidable (d.WrongTtl virtualRouterId) :=
  inferInstanceAs (Decidable (_ ∧ _))
instance (d : Datagram) (virtualRouterId : UInt8) : Decidable (d.Incomplete virtualRouterId) :=
  inferInstanceAs (Decidable (_ ∧ _))

theorem length_le (d : Datagram) : d.vrrpLength ≤ 65535 := by
  have bound : d.totalLength < _ := Octets.value_bound (Memory.slice d.buffer 2 2)
  rw [Memory.slice_length] at bound
  unfold vrrpLength
  omega

/-- The pseudo-header as the checksum of the code takes it. -/
theorem pseudo_words {d : Datagram} (valid : d.Ipv4) (known : d.dstAddress.family = .inet) :
    ∃ count header, Util.pseudoHeader d.vrrpLength d.srcAddress d.dstAddress 112 = some header ∧
      header.length = 2 * count ∧ 0 < Util.wordSum header ∧
      header = Util.pseudoBytes .inet d.srcAddress.data d.dstAddress.data 112 d.vrrpLength := by
  have inet : Family.inet ≠ .unspec := by decide
  obtain ⟨count, even, positive⟩ :=
    Util.pseudoBytes_words inet valid.source known d.vrrpLength
  exact ⟨count, _, Util.pseudoHeader_eq inet valid.source known _, even, positive, rfl⟩

/-- What the code's checksum is zero for. -/
theorem checksum_zero_iff {d : Datagram} (valid : d.Ipv4) (known : d.dstAddress.family = .inet) :
    (Util.checksum d.buffer (d.ihl * 4) d.vrrpLength d.srcAddress d.dstAddress
        protocolVrrp).value = 0 ↔
      (Util.wordSum (Util.pseudoBytes .inet d.srcAddress.data d.dstAddress.data 112 d.vrrpLength) +
        Util.wordSum (Memory.slice d.buffer (d.ihl * 4) (d.vrrpLength / 2 * 2))) % 65535 = 0 := by
  obtain ⟨count, header, made, -, positive, rfl⟩ := pseudo_words valid known
  rw [show protocolVrrp = 112 from rfl, Util.checksum_value d.buffer (d.ihl * 4) made d.length_le,
    OnesComplement.complement_eq_zero]
  omega

theorem verifies_iff {d : Datagram} (valid : d.Ipv4) (known : d.dstAddress.family = .inet)
    (size : Nat) : d.Verifies size ↔
      (Util.wordSum (Util.pseudoBytes .inet d.srcAddress.data d.dstAddress.data 112 d.vrrpLength) +
        Util.wordSum (Memory.slice d.buffer (d.ihl * 4) size) +
        Util.oddByte (Memory.slice d.buffer (d.ihl * 4) size) * 256) % 65535 = 0 := by
  obtain ⟨count, header, -, even, positive, rfl⟩ := pseudo_words valid known
  rw [Verifies, Util.internetChecksum_zero_iff, checksummed, Util.words_sum,
    Util.wordSum_append count even, Util.oddByte_append count even]
  omega

end Datagram

namespace VrrpSocket

variable {ι : Type}

/-- An IPv4 advertisement for a registered service in which everything but the checksum is in
order. -/
structure Passes (socket : VrrpSocket ι) (d : Datagram) (service : ι) : Prop where
  long : 8 ≤ d.vrrpLength
  version : upperNibble (d.vrrpByte 0) = 3
  type : lowerNibble (d.vrrpByte 0) = 1
  registered : Nested.find socket.listeners d.interface (d.vrrpByte 1) = some service
  ttl : d.buffer 8 = 255
  complete : 8 + 4 * (d.vrrpByte 3).toNat ≤ d.vrrpLength

/-- A valid IPv4 advertisement for a registered service: its Internet checksum verifies, or no
destination address could be decoded. -/
structure Valid (socket : VrrpSocket ι) (d : Datagram) (service : ι) : Prop extends
    Passes socket d service where
  checksum : d.dstAddress.family = .unspec ∨ d.Verifies d.vrrpLength

/-- What the code lets through, by a checksum of its own. -/
structure Accepts (socket : VrrpSocket ι) (d : Datagram) (service : ι) : Prop extends
    Passes socket d service where
  checksum : d.dstAddress.family = .unspec ∨ (Util.checksum d.buffer (d.ihl * 4) d.vrrpLength
    d.srcAddress d.dstAddress protocolVrrp).value = 0

inductive Verdict (socket : VrrpSocket ι) (d : Datagram) (calls : List (Call ι)) : Prop where
  | accepted (service : ι) (accepts : socket.Accepts d service)
      (once : Call.deliveredTo calls = [service])
  | rejected (refuses : ∀ service, ¬ socket.Accepts d service)
      (errors : Call.deliveredTo calls = [])

theorem deliveredTo_notifyAll (listeners : Std.TreeMap UInt8 ι) (interface : Int)
    (error : ListenerError) : Call.deliveredTo (notifyAll listeners interface error) = [] := by
  simp [Call.deliveredTo, notifyAll, Call.delivered, Function.comp_def]

theorem deliveredTo_notify (listeners : Std.TreeMap UInt8 ι) (interface : Int)
    (virtualRouterId : UInt8) (error : ListenerError) :
    Call.deliveredTo (notify listeners interface virtualRouterId error) = [] := by
  unfold notify
  split <;> rfl

theorem find_eq {socket : VrrpSocket ι} {interface : Int} {listeners : Std.TreeMap UInt8 ι}
    (found : socket.listeners[interface]? = some listeners) (virtualRouterId : UInt8) :
    Nested.find socket.listeners interface virtualRouterId = listeners[virtualRouterId]? := by
  rw [Nested.find, found, Option.bind_some]

theorem verifyChecksum_value (d : Datagram) (packet size : Nat) :
    (verifyChecksum d packet size).value = 0 ↔ d.dstAddress.family = .unspec ∨
      (Util.checksum d.buffer packet size d.srcAddress d.dstAddress protocolVrrp).value = 0 := by
  unfold verifyChecksum
  split
  · rename_i unknown
    simp [unknown]
  · rename_i known
    simp [known]

/-- The first check that the datagram fails, and the calls it leads to. -/
inductive Discards (listeners : Std.TreeMap UInt8 ι) (d : Datagram) : List (Call ι) → Prop where
  | short (short : d.Short) :
      Discards listeners d (notifyAll listeners d.interface .packetLengthError)
  | unsound {calls : List (Call ι)} (long : ¬ d.Short) (unsound : ¬ d.Sound)
      (silent : ∀ call ∈ calls, call.event = .incomingError .versionError) :
      Discards listeners d calls
  | wrongType (wrong : d.WrongType) :
      Discards listeners d (notifyAll listeners d.interface .invalidTypeError)
  | unknown {virtualRouterId : UInt8} (addresses : d.Addresses virtualRouterId)
      (absent : listeners[virtualRouterId]? = none) :
      Discards listeners d (notifyAll listeners d.interface .vrIdError)
  | wrongTtl {virtualRouterId : UInt8} {service : ι} (wrong : d.WrongTtl virtualRouterId)
      (registered : listeners[virtualRouterId]? = some service) :
      Discards listeners d [.onIncomingVrrpError service d.interface virtualRouterId .ipTtlError]
  | incomplete {virtualRouterId : UInt8} {service : ι} (incomplete : d.Incomplete virtualRouterId)
      (registered : listeners[virtualRouterId]? = some service) : Discards listeners d
        [.onIncomingVrrpError service d.interface virtualRouterId .packetLengthError]
  | accepted {virtualRouterId : UInt8} {service : ι} {priority : UInt8} {interval : WireInterval}
      {received : List IpAddress} (addresses : d.Addresses virtualRouterId)
      (ttl : d.buffer 8 = 255) (complete : ¬ d.Incomplete virtualRouterId)
      (registered : listeners[virtualRouterId]? = some service) : Discards listeners d
        [.onIncomingVrrpPacket service d.interface d.srcAddress virtualRouterId priority interval
          received]

theorem receiveAdvertisement_discards (listeners : Std.TreeMap UInt8 ι) (d : Datagram)
    (sound : d.Sound) (type : lowerNibble (d.vrrpByte 0) = 1) :
    Discards listeners d (receiveAdvertisement .inet d listeners (d.ihl * 4) d.vrrpLength
      (d.buffer 8)).value.calls := by
  have addresses : d.Addresses (d.vrrpByte 1) := ⟨sound, type, rfl⟩
  rw [receiveAdvertisement, Reading.bind_value, Reading.bind_value, Reading.bind_value,
    Reading.bind_value, Reading.bind_value,
    show (Reading.byte d.buffer (d.ihl * 4 + 1)).value = d.vrrpByte 1 from rfl,
    show (Reading.byte d.buffer (d.ihl * 4 + 3)).value = d.vrrpByte 3 from rfl]
  cases registered : listeners[d.vrrpByte 1]? with
  | none => exact .unknown addresses registered
  | some listener =>
    dsimp only
    split
    · rename_i wrong
      exact .wrongTtl ⟨addresses, wrong⟩ registered
    · rename_i right
      have ttl : d.buffer 8 = 255 := not_not.mp right
      split
      · rename_i short
        refine .incomplete ⟨addresses, ttl, ?_⟩ registered
        simp only [familySize] at short
        omega
      · rename_i long
        refine .accepted addresses ttl (fun incomplete => ?_) registered
        have short := incomplete.2.2
        simp only [familySize] at long
        omega

theorem receivePacket_discards (listeners : Std.TreeMap UInt8 ι) (d : Datagram) {size : Int}
    (same : (d.totalLength : Int) - (d.ihl * 4 : Nat) = size) : Discards listeners d
      (receivePacket .inet d listeners (d.ihl * 4) size (d.buffer 8)).value.calls := by
  have start : d.buffer (d.ihl * 4) = d.vrrpByte 0 := rfl
  unfold receivePacket
  split
  · rename_i short
    refine .short ?_
    unfold Datagram.Short Datagram.vrrpLength
    omega
  · rename_i enough
    have whole : size = (d.vrrpLength : Int) := by unfold Datagram.vrrpLength; omega
    have long : 8 ≤ d.vrrpLength := by omega
    rw [Reading.bind_value, Reading.byte_value, start, whole]
    split
    · rename_i version
      refine .unsound (not_lt.mpr long) (fun sound => version sound.2.1) ?_
      split
      · rw [Reading.bind_value, Reading.pure_value, notify]
        split
        · intro call made
          rw [List.mem_singleton.mp made]
          rfl
        · exact fun _ made => absurd made List.not_mem_nil
      · exact fun _ made => absurd made List.not_mem_nil
    · rename_i version
      rw [Reading.bind_value]
      split
      · rename_i wrong
        refine .unsound (not_lt.mpr long)
          (fun sound => wrong ((verifyChecksum_value d _ _).mpr sound.2.2)) ?_
        exact fun _ made => absurd made List.not_mem_nil
      · rename_i verified
        have sound : d.Sound := ⟨long, not_not.mp version,
          (verifyChecksum_value d _ _).mp (not_not.mp verified)⟩
        split
        · rename_i other
          exact .wrongType ⟨sound, other⟩
        · rename_i type
          exact receiveAdvertisement_discards listeners d sound (not_not.mp type)

theorem onSocketPacket_discards (socket : VrrpSocket ι) (family : socket.family = .inet)
    (d : Datagram) :
    ∃ handled, (socket.onSocketPacket d).value = some handled ∧
      (socket.listeners[d.interface]? = none ∧ handled.calls = [] ∨
        ∃ listeners, socket.listeners[d.interface]? = some listeners ∧
          Discards listeners d handled.calls) := by
  unfold onSocketPacket
  cases found : socket.listeners[d.interface]? with
  | none => exact ⟨_, rfl, .inl ⟨rfl, rfl⟩⟩
  | some listeners =>
    rw [family]
    exact ⟨_, rfl, .inr ⟨listeners, rfl, receivePacket_discards listeners d rfl⟩⟩

theorem Accepts.sound {socket : VrrpSocket ι} {d : Datagram} {service : ι}
    (accepts : socket.Accepts d service) : d.Sound :=
  ⟨accepts.long, accepts.version, accepts.checksum⟩

/-- Each check that discards a datagram is one that an accepted one passes. -/
theorem Discards.verdict {socket : VrrpSocket ι} {d : Datagram}
    {listeners : Std.TreeMap UInt8 ι} (found : socket.listeners[d.interface]? = some listeners)
    {calls : List (Call ι)} (discards : Discards listeners d calls) : Verdict socket d calls := by
  cases discards with
  | short short =>
    exact .rejected (fun _ accepts => absurd accepts.long (not_le.mpr short))
      (deliveredTo_notifyAll _ _ _)
  | unsound _ unsound silent =>
    refine .rejected (fun _ accepts => unsound accepts.sound) ?_
    rw [Call.deliveredTo, List.filterMap_eq_nil_iff]
    intro call made
    have error := silent call made
    cases call with
    | onIncomingVrrpPacket => cases error
    | onIncomingVrrpError => rfl
  | wrongType wrong =>
    exact .rejected (fun _ accepts => wrong.2 accepts.type) (deliveredTo_notifyAll _ _ _)
  | unknown addresses absent =>
    refine .rejected (fun service accepts => ?_) (deliveredTo_notifyAll _ _ _)
    have registered := accepts.registered
    rw [find_eq found, addresses.2.2, absent] at registered
    cases registered
  | wrongTtl wrong => exact .rejected (fun _ accepts => wrong.2 accepts.ttl) rfl
  | incomplete incomplete =>
    exact .rejected (fun _ accepts => absurd accepts.complete (not_le.mpr incomplete.2.2)) rfl
  | @accepted v service _ _ _ addresses ttl complete registered =>
    obtain ⟨⟨long, version, checksum⟩, type, own⟩ := addresses
    have whole : 8 + 4 * (d.vrrpByte 3).toNat ≤ d.vrrpLength :=
      not_lt.mp fun short => complete ⟨⟨⟨long, version, checksum⟩, type, own⟩, ttl, short⟩
    rw [← own, ← find_eq found] at registered
    exact .accepted service ⟨⟨long, version, type, registered, ttl, whole⟩, checksum⟩ rfl

theorem onSocketPacket_verdict (socket : VrrpSocket ι) (family : socket.family = .inet)
    (d : Datagram) : ∃ handled, (socket.onSocketPacket d).value = some handled ∧
      Verdict socket d handled.calls := by
  obtain ⟨handled, value, discarded⟩ := onSocketPacket_discards socket family d
  refine ⟨handled, value, ?_⟩
  rcases discarded with ⟨absent, none⟩ | ⟨listeners, found, discards⟩
  · refine .rejected (fun service accepts => ?_) (by rw [none]; rfl)
    have registered := accepts.registered
    rw [Nested.find, absent] at registered
    cases registered
  · exact discards.verdict found

/-- A service gets an advertisement, once and alone, exactly when the datagram is valid for
it; any other datagram changes statistics of services only and sends nothing. -/
def OnlyValid [DecidableEq ι] (socket : VrrpSocket ι) (services : ι → VrrpService)
    (d : Datagram) : Prop :=
  ∃ handled, (socket.onSocketPacket d).value = some handled ∧
    (∀ service, Call.deliveredTo handled.calls = [service] ↔ socket.Valid d service) ∧
    ((∀ service, ¬ socket.Valid d service) → Call.deliveredTo handled.calls = [] ∧
      (Call.applyAll services handled.calls).2 = [] ∧
      ∀ i, ((Call.applyAll services handled.calls).1 i).apartFromErrors =
        (services i).apartFromErrors)

/-- The VRRP part ends in an odd byte that is not zero, and everything is in order either with
this byte or without it. -/
structure OddByteDecides (socket : VrrpSocket ι) (d : Datagram) : Prop where
  passes : ∃ service, socket.Passes d service
  known : d.dstAddress.family = .inet
  odd : d.vrrpLength % 2 = 1
  last : d.vrrpByte (d.vrrpLength - 1) ≠ 0
  verifies : d.Verifies d.vrrpLength ∨ d.Verifies (d.vrrpLength - 1)

theorem delivered_iff {socket : VrrpSocket ι} {d : Datagram} {calls : List (Call ι)}
    (verdict : Verdict socket d calls) (service : ι) :
    Call.deliveredTo calls = [service] ↔ socket.Accepts d service := by
  cases verdict with
  | accepted first accepts once =>
    rw [once]
    constructor
    · intro same
      rw [← (List.cons.inj same).1]
      exact accepts
    · intro also
      have := accepts.registered.symm.trans also.registered
      rw [Option.some.inj this]
  | rejected refuses errors => exact iff_of_false (by simp [errors]) (refuses service)

/-- The frame half holds of whatever the code refuses, so the property is about the two
checksums alone. -/
theorem onlyValid_iff_accepts [DecidableEq ι] (socket : VrrpSocket ι)
    (family : socket.family = .inet) (services : ι → VrrpService) (d : Datagram) :
    socket.OnlyValid services d ↔ ∀ service, socket.Accepts d service ↔ socket.Valid d service := by
  obtain ⟨handled, value, verdict⟩ := onSocketPacket_verdict socket family d
  constructor
  · rintro ⟨_, same, exactly, -⟩ service
    cases Option.some.inj (value.symm.trans same)
    exact (delivered_iff verdict service).symm.trans (exactly service)
  · intro agree
    refine ⟨handled, value, fun service => (delivered_iff verdict service).trans (agree service),
      fun invalid => ?_⟩
    cases verdict with
    | accepted service accepts => exact absurd ((agree service).mp accepts) (invalid service)
    | rejected _ errors => exact ⟨errors, Call.applyAll_errors errors services⟩

theorem checksums_agree_iff {d : Datagram} (valid : d.Ipv4) (known : d.dstAddress.family = .inet) :
    ((Util.checksum d.buffer (d.ihl * 4) d.vrrpLength d.srcAddress d.dstAddress
        protocolVrrp).value = 0 ↔ d.Verifies d.vrrpLength) ↔
      ¬ (d.vrrpLength % 2 = 1 ∧ d.vrrpByte (d.vrrpLength - 1) ≠ 0 ∧
        (d.Verifies d.vrrpLength ∨ d.Verifies (d.vrrpLength - 1))) := by
  rw [d.checksum_zero_iff valid known, d.verifies_iff valid known, d.verifies_iff valid known,
    Util.wordSum_slice d.buffer (d.ihl * 4) d.vrrpLength, Util.oddByte_slice, ne_eq,
    ← UInt8.toNat_inj]
  rcases Nat.mod_two_eq_zero_or_one d.vrrpLength with even | odd
  · simp [even]
  · have rest : Util.oddByte (Memory.slice d.buffer (d.ihl * 4) (d.vrrpLength - 1)) = 0 := by
      rw [Util.oddByte_slice, if_neg (by omega)]
    have small := (d.vrrpByte (d.vrrpLength - 1)).toNat_lt
    rw [if_pos odd, rest, show d.vrrpLength - 1 = d.vrrpLength / 2 * 2 by omega,
      show d.ihl * 4 + d.vrrpLength - 1 = d.ihl * 4 + d.vrrpLength / 2 * 2 by omega]
    rw [show d.vrrpLength - 1 = d.vrrpLength / 2 * 2 by omega] at small
    unfold Datagram.vrrpByte at small ⊢
    rw [UInt8.toNat_zero]
    omega

/-- Only valid advertisements reach a service, and all of them do, exactly when it does not
depend on an odd last byte whether the checksum is right. -/
theorem onlyValid_iff [DecidableEq ι] (socket : VrrpSocket ι) (family : socket.family = .inet)
    (services : ι → VrrpService) (d : Datagram) (valid : d.Ipv4) :
    socket.OnlyValid services d ↔ ¬ socket.OddByteDecides d := by
  rw [onlyValid_iff_accepts socket family services d]
  by_cases known : d.dstAddress.family = .inet
  · have agree := checksums_agree_iff valid known
    have decoded : d.dstAddress.family ≠ .unspec := by simp [known]
    constructor
    · rintro same ⟨⟨service, passes⟩, -, odd, last, verifies⟩
      refine agree.mp ⟨fun zero => ?_, fun verifies => ?_⟩ ⟨odd, last, verifies⟩
      · exact ((same service).mp ⟨passes, .inr zero⟩).checksum.resolve_left decoded
      · exact ((same service).mpr ⟨passes, .inr verifies⟩).checksum.resolve_left decoded
    · intro never service
      constructor
      · rintro ⟨passes, checksum⟩
        have same := agree.mpr fun ⟨odd, last, verifies⟩ =>
          never ⟨⟨service, passes⟩, known, odd, last, verifies⟩
        exact ⟨passes, checksum.imp_right same.mp⟩
      · rintro ⟨passes, checksum⟩
        have same := agree.mpr fun ⟨odd, last, verifies⟩ =>
          never ⟨⟨service, passes⟩, known, odd, last, verifies⟩
        exact ⟨passes, checksum.imp_right same.mpr⟩
  · refine iff_of_true (fun service => ?_) (fun decides => known decides.known)
    have unknown : d.dstAddress.family = .unspec := by
      cases destination : d.dstAddress.family with
      | unspec => rfl
      | inet => exact absurd destination known
      | inet6 => exact absurd destination valid.destination
    exact ⟨fun accepts => ⟨accepts.toPasses, .inl unknown⟩,
      fun valid => ⟨valid.toPasses, .inl unknown⟩⟩

theorem onlyValid_sample : listening.OnlyValid (fun _ => .sample 1) (claiming 0 28) :=
  (onlyValid_iff listening rfl (fun _ => .sample 1) (claiming 0 28) (claiming_ipv4 (by decide))).mpr
    fun decides => absurd decides.odd (by decide)

/-- An advertisement of router 51 with one byte behind it. -/
def trailed : Datagram where
  buffer := Memory.store (fun _ => 0) 0 ([0x45, 0, 0, 29, 0, 0, 0, 0, 255, 112] ++
    List.replicate 10 0 ++ [0x31, 51, 100, 0, 0, 100, 0xC7, 0xDA, 1])
  interface := 2
  srcAddress := .sample 1
  dstAddress := multicastAddress .inet

/-- The checksum of `trailed` is right for the eight bytes before the last one only, and it is
delivered. -/
theorem trailed_delivered : trailed.Ipv4 ∧ ¬ listening.OnlyValid (fun _ => .sample 1) trailed := by
  have passes : listening.Passes trailed () :=
    ⟨by decide, by decide, by decide, Nested.find_put_self .., by decide, by decide⟩
  have ipv4 : trailed.Ipv4 := ⟨by decide, by decide, by decide, rfl, by decide⟩
  refine ⟨ipv4, fun only => ?_⟩
  have valid := ((onlyValid_iff_accepts listening rfl _ trailed).mp only ()).mp
    ⟨passes, .inr ((Datagram.checksum_zero_iff ipv4 rfl).mpr (by decide))⟩
  exact absurd valid.checksum (by decide)

end VrrpSocket

end OpenVrrp
