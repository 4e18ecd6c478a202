import OpenVrrp.History
import OpenVrrp.Telnet.Listing
import OpenVrrp.Text.Format

/-! What showRouter and showRouterStats print through m_buffer. vsprintf checks nothing; what it
prints fits because a command can only be as long as the line that sets it. -/
namespace OpenVrrp

/-- `INET6_ADDRSTRLEN`, the room of an address in text form with its zero byte. -/
def addressTextSize : Nat := 46

/-- What a line that fits m_buffer with its newline leaves behind the shortest words before the
command. -/
def longestCommand : Nat := bufferCapacity - 1 - (ascii "set router e 1 master command ").length

/-- The texts of the C library: if_indextoname with its null pointer, and inet_ntop. -/
structure Names where
  indexToName : Int → Option { name : Text // name.length < interfaceNameSize }
  inetNtop : IpAddress → { text : Text // text.length < addressTextSize }

/-- One interface, and the addresses of IPv4. -/
def Names.sample : Names where
  indexToName interface := if interface = 2 then some ⟨ascii "eth0", by decide⟩ else none
  inetNtop a := ⟨(List.intercalate (ascii ".") (a.data.map fun b => decimal b.toNat)).take 45,
    Nat.lt_succ_of_le (List.length_take_le 45 _)⟩

namespace TelnetSession

/-- What goes to the client: through sendFormatted, or as it is. -/
inductive Output where
  | formatted (pieces : List Piece)
  | response (text : Text)

/-- The bytes that go to the client. -/
def Output.sent : Output → Text
  | .formatted pieces => vsprintf pieces
  | .response text => text

section Model
variable (names : Names)

def addressText (a : IpAddress) : Text :=
  if a.family = .unspec then [] else (names.inetNtop a).1

def subnetText (subnet : IpSubnet) : Text :=
  addressText names subnet.address ++ ascii "/" ++ decimal subnet.cidr.toNat

def interfaceText (interface : Int) : Piece := .s ((names.indexToName interface).map (·.1))

/-- A template that starts with a label and ends with the newline. -/
def labelled (label : String) (values : List Piece) : Output :=
  .formatted (.text (ascii label) :: (values ++ [.text [newline]]))

def familyText (family : Family) : Text := ascii (if family = .inet then "IPv4" else "IPv6")

def stateText : State → String
  | .disabled => "Disabled"
  | .linkDown => "Link Down"
  | .backup => "Backup"
  | .master => "Master"

def reasonText : NewMasterReason → String
  | .notMaster => "Not master"
  | .priority => "Priority"
  | .preempted => "Preempted"
  | .masterNotResponding => "Master not responding"

def errorText : ProtocolErrorReason → String
  | .noError => "No error"
  | .ipTtlError => "IP TTL error"
  | .versionError => "Version error"
  | .checksumError => "Checksum error"
  | .vrIdError => "Virtual router ID error"

def yesNo (mode : Bool) : Piece := .s (some (ascii (if mode then "Yes" else "No")))

def colon : Piece := .text (ascii ":")

def showRouter (service : VrrpService) : List Output :=
  [labelled "Virtual router " [.hhu service.virtualRouterId.toNat, .text (ascii " on interface "),
      interfaceText names service.interface, .text (ascii " ("),
      .s (some (familyText service.family)), .text (ascii ", VLAN "), .hu service.vlanId.toNat,
      .text (ascii ")")],
    labelled " Master IP Address:      " [.s (some (addressText names service.masterIpAddress))],
    labelled " Primary IP Address:     " [.s (some (addressText names service.primaryIpAddress)),
      .s (some (ascii (if service.autoPrimaryIpAddress then "" else " (Forced)")))],
    labelled " Virtual MAC:            " [.hhX service.mac[0], colon, .hhX service.mac[1], colon,
      .hhX service.mac[2], colon, .hhX service.mac[3], colon, .hhX service.mac[4], colon,
      .hhX service.mac[5]],
    labelled " Status:                 " [.s (some (ascii (stateText service.state)))],
    labelled " Priority:               " [.u service.priority.1.toNat],
    labelled " Advertisement Interval: " [.u (service.advertisementInterval.value * 10),
      .text (ascii " msec")],
    labelled " Preempt Mode:           " [yesNo service.preemptMode],
    labelled " Accept Mode:            " [yesNo service.acceptMode],
    labelled " Master Command:         " [.s (some service.masterCommand)],
    labelled " Backup Command:         " [.s (some service.backupCommand)],
    .response (Resp.line " Address List:")] ++
  service.subnets.toList.map (fun subnet =>
    labelled "  " [.s (some (subnetText names subnet))]) ++
  [.response [newline]]

def showRouterStats (service : VrrpService) : List Output :=
  [labelled "Virtual router " [.hhu service.virtualRouterId.toNat, .text (ascii " on interface "),
      interfaceText names service.interface, .text (ascii " ("),
      .s (some (familyText service.family)), .text (ascii ")")],
    labelled " Master Transitions:                    " [.u service.statsMasterTransitions],
    labelled " Master Reason:                         "
      [.s (some (ascii (reasonText service.statsNewMasterReason)))],
    labelled " Received Advertisements:               " [.llu service.statsRcvdAdvertisements],
    labelled " Advertisement Interval Errors:         " [.llu service.statsAdvIntervalErrors],
    labelled " IP TTL Errors:                         " [.llu service.statsIpTtlErrors],
    labelled " Protocol Error:                        "
      [.s (some (ascii (errorText service.statsProtocolErrReason)))],
    labelled " Priority Zero Advertisements Received: " [.llu service.statsRcvdPriZeroPackets],
    labelled " Priority Zero Advertisements Sent:     " [.llu service.statsSentPriZeroPackets],
    labelled " Invalid Packet Types Received:         " [.llu service.statsRcvdInvalidTypePackets],
    labelled " Address List Errors:                   " [.llu service.statsAddressListErrors],
    labelled " Packet Length Errors:                  " [.llu service.statsPacketLengthErrors],
    .response [newline]]

/-- What the loops of `show router` send for a service. -/
def Shown.outputs (shown : Shown VrrpService) : List Output :=
  if shown.stats then showRouterStats names shown.service else showRouter names shown.service

end Model

/-- What is formatted fits m_buffer with its terminating zero. -/
def Output.Fits : Output → Prop
  | .formatted pieces => (vsprintf pieces).length + 1 ≤ bufferCapacity
  | .response _ => True

theorem labelled_fits {label : String} {values : List Piece} (most : Nat)
    (short : (ascii label).length ≤ most)
    (room : most + (values.map Piece.room).sum + 2 ≤ bufferCapacity) :
    (labelled label values).Fits := by
  apply Nat.le_trans (Nat.succ_le_succ (vsprintf_length _))
  rw [Piece.rooms_cons, List.map_append, List.sum_append, Piece.rooms_cons, Piece.rooms_nil]
  simp only [Piece.room, List.length_singleton]
  omega

/-! ### The room that words take -/

/-- The length of the words with a separator behind each. -/
def wordsRoom (words : List Text) : Nat := (words.map fun word => word.length + 1).sum

theorem wordsRoom_cons (word : Text) (words : List Text) :
    wordsRoom (word :: words) = word.length + 1 + wordsRoom words := by
  rw [wordsRoom, wordsRoom, List.map_cons, List.sum_cons]

theorem wordsRoom_drop (words : List Text) (n : Nat) :
    wordsRoom (words.take n) + wordsRoom (words.drop n) = wordsRoom words := by
  rw [wordsRoom, wordsRoom, ← List.sum_append, ← List.map_append, List.take_append_drop, wordsRoom]

theorem wordsRoom_proper {words : List Text} (proper : ∀ word ∈ words, word ≠ []) :
    2 * words.length ≤ wordsRoom words := by
  induction words with
  | nil => exact Nat.zero_le _
  | cons word rest ih =>
    have first := List.length_pos_iff.mpr (proper word List.mem_cons_self)
    have others := ih fun other inside => proper other (List.mem_cons_of_mem word inside)
    rw [wordsRoom_cons, List.length_cons]
    omega

theorem joinWords_length (words : List Text) :
    (joinWords words).length = wordsRoom words - 1 := by
  induction words with
  | nil => rfl
  | cons word rest ih =>
    cases rest with
    | nil => exact congrArg List.length (List.append_nil word)
    | cons next rest =>
      have following := wordsRoom_cons next rest
      unfold joinWords at ih ⊢
      rw [List.intercalate_cons_cons, List.length_append, List.length_append, ih,
        wordsRoom_cons word, List.length_singleton]
      omega

/-- Between the words of a line there is at least one byte; inside a word, the rest of it is
still to come. -/
theorem wordsRoom_splitCommand (line : Text) :
    wordsRoom (splitCommand true line) ≤ line.length + 1 ∧
    wordsRoom (splitCommand false line) + (line.takeWhile fun c => !isSpace c).length ≤
      line.length := by
  induction line with
  | nil => exact ⟨Nat.zero_le _, Nat.le_refl _⟩
  | cons b rest ih =>
    obtain ⟨outside, inside⟩ := ih
    cases space : isSpace b with
    | true =>
      simp only [splitCommand, space, if_true, List.takeWhile_cons, Bool.not_true, List.length_cons,
        Bool.false_eq_true, if_false, List.length_nil]
      omega
    | false =>
      simp only [splitCommand, space, if_true, List.takeWhile_cons, Bool.not_false,
        List.length_cons, Bool.false_eq_true, if_false, wordsRoom_cons]
      omega

theorem splitCommand_proper (whiteSpace : Bool) (line : Text) :
    ∀ word ∈ splitCommand whiteSpace line, word ≠ [] := by
  induction line generalizing whiteSpace with
  | nil => exact fun word inside => absurd inside List.not_mem_nil
  | cons b rest ih =>
    intro word inside
    unfold splitCommand at inside
    split at inside
    · exact ih true word inside
    split at inside
    · rcases List.mem_cons.mp inside with rfl | inside
      · exact List.cons_ne_nil _ _
      · exact ih false word inside
    · exact ih false word inside

theorem wordsRoom_arguments (line : Text) : wordsRoom (arguments line) ≤ line.length + 1 := by
  have words := (wordsRoom_splitCommand (command line)).1
  have ended : (command line).length ≤ (line.rdropWhile isSpace).length :=
    (List.takeWhile_prefix _).length_le
  have trimmed : (line.rdropWhile isSpace).length ≤ line.length :=
    (List.rdropWhile_prefix isSpace line).length_le
  unfold arguments
  omega

/-! ### How long a command can be -/

def SetsRouter (argv : List Text) : Prop := wordIs argv 0 "set" ∧ wordIs argv 1 "router"

theorem command_room {argv command : List Text} {name : String} {place : Nat}
    (proper : ∀ word ∈ argv, word ≠ []) (sets : SetsRouter argv) (least : 4 ≤ place)
    (six : (ascii name).length = 6)
    (given : argv.drop place = ascii name :: ascii "command" :: command) :
    wordsRoom command + 30 ≤ wordsRoom argv := by
  obtain ⟨first, second⟩ := sets
  simp only [wordIs, beq_iff_eq] at first second
  obtain ⟨rest, rfl⟩ : ∃ rest, argv = ascii "set" :: ascii "router" :: rest := by
    cases argv with
    | nil => cases first
    | cons set words =>
      cases words with
      | nil => cases second
      | cons router rest => exact ⟨rest, by cases first; cases second; rfl⟩
  obtain ⟨place, rfl⟩ : ∃ n, place = n + 2 := ⟨place - 2, by omega⟩
  simp only [List.drop_succ_cons] at given
  have behind : place + 2 ≤ rest.length := by
    have length := congrArg List.length given
    simp only [List.length_drop, List.length_cons] at length
    omega
  have named : 2 * (rest.take place).length ≤ wordsRoom (rest.take place) :=
    wordsRoom_proper fun word inside =>
      proper word (List.mem_cons_of_mem _ (List.mem_cons_of_mem _ (List.mem_of_mem_take inside)))
  have parts := wordsRoom_drop rest place
  rw [given, wordsRoom_cons, wordsRoom_cons, six] at parts
  rw [List.length_take_of_le (by omega)] at named
  have router : (ascii "set").length = 3 ∧ (ascii "router").length = 6 ∧
    (ascii "command").length = 7 := by decide
  rw [wordsRoom_cons, wordsRoom_cons]
  omega

end TelnetSession

/-- The text of an event that sets a command. -/
def Event.command : Event → Option Text
  | .setMasterCommand command | .setBackupCommand command => some command
  | _ => none

theorem Event.Plain.command {e : Event} (plain : e.Plain) : e.command = none := by
  cases e with
  | setMasterCommand | setBackupCommand => exact plain.elim
  | _ => rfl

theorem TelnetSession.Caused.command_fits {libc : Libc} {line : Text} {s : VrrpService} {e : Event}
    (caused : Caused libc (arguments line) s e)
    (short : SetsRouter (arguments line) → line.length < bufferCapacity) :
    ∀ command ∈ e.command, command.length ≤ longestCommand := by
  intro command given
  cases caused with
  | plain plain =>
    rw [plain.command] at given
    cases given
  | subnet => cases given
  | set first second caused =>
    have place : 4 ≤ if s.family = .inet6 then 5 else 4 := by split <;> decide
    have proper : ∀ word ∈ arguments line, word ≠ [] := splitCommand_proper true _
    have fits := short ⟨first, second⟩
    have room := wordsRoom_arguments line
    have longest : longestCommand = 993 := by decide
    have capacity : bufferCapacity = 1024 := rfl
    cases caused with
    | plain plain =>
      rw [plain.command] at given
      cases given
    | master words =>
      cases given
      have left := command_room proper ⟨first, second⟩ place (by decide) words
      rw [joinWords_length]
      omega
    | backup words =>
      cases given
      have left := command_room proper ⟨first, second⟩ place (by decide) words
      rw [joinWords_length]
      omega

namespace VrrpService

/-- Both commands of the service are as short as a line or a file makes them. -/
def CommandsFit (s : VrrpService) : Prop :=
  s.masterCommand.length ≤ longestCommand ∧ s.backupCommand.length ≤ longestCommand

theorem commandsFit_step {s : VrrpService} {e : Event} (fit : s.CommandsFit)
    (fits : ∀ command ∈ e.command, command.length ≤ longestCommand) :
    (s.step e).1.CommandsFit := by
  have same := s.step_settings e
  have master : (s.step e).1.masterCommand = (s.settings.step s.family e).masterCommand :=
    congrArg Settings.masterCommand same
  have backup : (s.step e).1.backupCommand = (s.settings.step s.family e).backupCommand :=
    congrArg Settings.backupCommand same
  have replaced := Settings.step_commands s.family s.settings e
  rw [CommandsFit, master, backup]
  constructor
  · rcases replaced.1 with kept | set
    · rw [kept]
      exact fit.1
    · exact fits _ (congrArg Event.command set)
  · rcases replaced.2 with kept | set
    · rw [kept]
      exact fit.2
    · exact fits _ (congrArg Event.command set)

end VrrpService

namespace TelnetSession

/-! ### The lines of showRouter and showRouterStats -/

section Fits
variable (names : Names)

theorem addressText_length (a : IpAddress) : (addressText names a).length ≤ 45 := by
  unfold addressText
  split
  · exact Nat.zero_le _
  · exact Nat.le_of_lt_succ (names.inetNtop a).2

theorem subnetText_length (subnet : IpSubnet) : (subnetText names subnet).length ≤ 56 := by
  have address := addressText_length names subnet.address
  have digits : (decimal subnet.cidr.toNat).length ≤ 9 + 1 :=
    Piece.decimal_room (subnet.cidr.toNat_lt.trans (by decide))
  rw [subnetText, List.length_append, List.length_append]
  have slash : (ascii "/").length = 1 := by decide
  omega

theorem interfaceText_room (interface : Int) : (interfaceText names interface).room ≤ 15 := by
  unfold interfaceText
  cases names.indexToName interface with
  | none => exact (by decide : 6 ≤ 15)
  | some name => exact Nat.le_of_lt_succ name.2

theorem familyText_length (family : Family) : (familyText family).length = 4 := by
  unfold familyText
  split <;> decide

/-- A line has much room, unless it shows a command. -/
theorem values_fit {label : String} {values : List Piece} (short : (ascii label).length ≤ 41)
    (small : (values.map Piece.room).sum ≤ 200) : (labelled label values).Fits := by
  apply labelled_fits 41 short
  have capacity : bufferCapacity = 1024 := rfl
  omega

theorem value_fits {label : String} {value : Piece} (short : (ascii label).length ≤ 41)
    (small : value.room ≤ 56) : (labelled label [value]).Fits := by
  apply values_fit short
  rw [List.map_singleton, List.sum_singleton]
  omega

theorem u_fits {label : String} (n : Nat) (short : (ascii label).length ≤ 41) :
    (labelled label [.u n]).Fits :=
  value_fits short (by decide : 10 ≤ 56)

theorem llu_fits {label : String} (n : Nat) (short : (ascii label).length ≤ 41) :
    (labelled label [.llu n]).Fits :=
  value_fits short (by decide : 20 ≤ 56)

theorem command_fits {label : String} {command : Text} (short : (ascii label).length ≤ 25)
    (fits : command.length ≤ longestCommand) :
    (labelled label [.s (some command)]).Fits := by
  apply labelled_fits 25 short
  have longest : longestCommand = 993 := by decide
  have capacity : bufferCapacity = 1024 := rfl
  rw [List.map_singleton, List.sum_singleton, Piece.room]
  omega

theorem showRouterStats_fits (s : VrrpService) :
    ∀ output ∈ showRouterStats names s, output.Fits := by
  have interface := interfaceText_room names s.interface
  have family := familyText_length s.family
  have reason : (ascii (reasonText s.statsNewMasterReason)).length ≤ 56 := by
    cases s.statsNewMasterReason <;> decide
  have error : (ascii (errorText s.statsProtocolErrReason)).length ≤ 56 := by
    cases s.statsProtocolErrReason <;> decide
  have words : (ascii " on interface ").length = 14 ∧ (ascii " (").length = 2 ∧
    (ascii ")").length = 1 := by decide
  simp only [showRouterStats, List.forall_mem_cons]
  refine ⟨values_fit (by decide) ?heading, u_fits _ (by decide), value_fits (by decide) reason,
    llu_fits _ (by decide), llu_fits _ (by decide), llu_fits _ (by decide),
    value_fits (by decide) error, llu_fits _ (by decide), llu_fits _ (by decide),
    llu_fits _ (by decide), llu_fits _ (by decide), llu_fits _ (by decide), trivial,
    fun output none => absurd none List.not_mem_nil⟩
  case heading =>
    simp only [Piece.rooms_cons, Piece.rooms_nil]
    generalize (interfaceText names s.interface).room = name at interface ⊢
    simp only [Piece.room, words]
    omega

theorem showRouter_fits {s : VrrpService} (fit : s.CommandsFit) :
    ∀ output ∈ showRouter names s, output.Fits := by
  have interface := interfaceText_room names s.interface
  have family := familyText_length s.family
  have master : (addressText names s.masterIpAddress).length ≤ 56 :=
    (addressText_length names s.masterIpAddress).trans (by decide)
  have primary := addressText_length names s.primaryIpAddress
  have state : (ascii (stateText s.state)).length ≤ 56 := by
    cases s.state <;> decide
  have switch : ∀ mode, (yesNo mode).room ≤ 56 := by decide
  have forced : (ascii (if s.autoPrimaryIpAddress then "" else " (Forced)")).length ≤ 9 := by
    cases s.autoPrimaryIpAddress <;> decide
  have words : (ascii " on interface ").length = 14 ∧ (ascii " (").length = 2 ∧
    (ascii ")").length = 1 ∧ (ascii ", VLAN ").length = 7 ∧ (ascii ":").length = 1 ∧
    (ascii " msec").length = 5 := by decide
  simp only [showRouter, List.forall_mem_append, List.forall_mem_cons]
  refine ⟨⟨⟨values_fit (by decide) ?heading, value_fits (by decide) master,
    values_fit (by decide) ?primary, values_fit (by decide) ?mac, value_fits (by decide) state,
    u_fits _ (by decide), values_fit (by decide) ?interval, value_fits (by decide) (switch _),
    value_fits (by decide) (switch _), command_fits (by decide) fit.1,
    command_fits (by decide) fit.2, trivial, fun output none => absurd none List.not_mem_nil⟩,
    ?addresses⟩, trivial, fun output none => absurd none List.not_mem_nil⟩
  case heading =>
    simp only [Piece.rooms_cons, Piece.rooms_nil]
    generalize (interfaceText names s.interface).room = name at interface ⊢
    simp only [Piece.room, words]
    omega
  case primary =>
    simp only [Piece.rooms_cons, Piece.rooms_nil, Piece.room]
    omega
  case mac =>
    simp only [Piece.rooms_cons, Piece.rooms_nil, Piece.room, colon, words]
    decide
  case interval =>
    simp only [Piece.rooms_cons, Piece.rooms_nil, Piece.room, words]
    decide
  case addresses =>
    intro output inside
    obtain ⟨subnet, _, rfl⟩ := List.mem_map.mp inside
    exact value_fits (by decide) (subnetText_length names subnet)

end Fits

end TelnetSession

namespace VrrpManager

open TelnetSession

variable {libc : Libc}

/-- A `set router` line is at most as long as it fits m_buffer with its newline. -/
def ShortLine : Happening → Prop
  | .input (.line _ line) => SetsRouter (arguments line) → line.length < bufferCapacity
  | _ => True

theorem causes_command_fits {s : VrrpService} {h : Happening} {e : Event}
    (causes : h.Causes libc s e) (short : ShortLine h) :
    ∀ command ∈ e.command, command.length ≤ longestCommand := by
  have longest : 255 ≤ longestCommand := by decide
  intro command given
  cases causes with
  | line caused => exact caused.command_fits short command given
  | @event _ e happens =>
    cases e with
    | setMasterCommand | setBackupCommand => exact absurd trivial happens
    | _ => cases given
  | record known restores =>
    cases restores with
    | plain plain =>
      rw [plain.command] at given
      cases given
    | master =>
      cases given
      exact known.master.trans longest
    | backup =>
      cases given
      exact known.backup.trans longest
    | subnet => cases given

theorem commandsFit_happen {m t : VrrpManager} {h : Happening} (short : ShortLine h)
    (fit : m.Each fun _ s => s.CommandsFit) (taken : m.happen libc h = some t) :
    t.Each fun _ s => s.CommandsFit := by
  refine happen_each taken (fun _ made => ?_)
    (fun _ _ _ causes held => VrrpService.commandsFit_step held (causes_command_fits causes short))
    fit
  have new := VrrpService.construct_settings made
  have master : _ = [] := congrArg Settings.masterCommand new
  have backup : _ = [] := congrArg Settings.backupCommand new
  exact ⟨(congrArg List.length master).trans_le (Nat.zero_le _),
    (congrArg List.length backup).trans_le (Nat.zero_le _)⟩

theorem commandsFit_history {happenings : List Happening} {m : VrrpManager}
    (reached : history libc happenings = some m) (short : ∀ h ∈ happenings, ShortLine h) :
    m.Each fun _ s => s.CommandsFit :=
  Runs.foldlM_keeps_of_mem (fun m => m.Each fun _ s => s.CommandsFit)
    (fun _ h inside _ fit taken => commandsFit_happen (short h inside) fit taken) empty_each reached

/-- Whatever is formatted of a service of the daemon fits m_buffer. -/
theorem formatted_fits (libc : Libc) (names : Names) {happenings : List Happening}
    {m : VrrpManager} (reached : history libc happenings = some m)
    (short : ∀ h ∈ happenings, ShortLine h) :
    m.Each fun _ s => ∀ output ∈ showRouter names s ++ showRouterStats names s, output.Fits := by
  intro key s stored output inside
  have fit := commandsFit_history reached short key s stored
  rcases List.mem_append.mp inside with router | stats
  · exact showRouter_fits names fit output router
  · exact showRouterStats_fits names s output stats

/-- The same of what `show router` lists. -/
theorem listed_fits (names : Names) {happenings : List Happening} {m : VrrpManager}
    (reached : history libc happenings = some m) (short : ∀ h ∈ happenings, ShortLine h)
    {services : ServiceMap VrrpService} (represents : services.Represents m) (argv : List Text) :
    ∀ shown ∈ display (onShowRouterCommand libc services argv),
      ∀ output ∈ shown.outputs names, output.Fits := by
  intro shown listed output inside
  have found := display_stored listed
  obtain ⟨key, place⟩ := represents.placed _ _ found
  rw [← place, represents.same] at found
  unfold Shown.outputs at inside
  split at inside
  · exact showRouterStats_fits names _ output inside
  · exact showRouter_fits names (commandsFit_history reached short key _ found) output inside

/-- With its newline, the longest line that m_buffer takes. -/
def fullLine : Text := ascii "set router eth0 51 master command " ++ List.replicate 989 97

def fullLines : List Happening :=
  [.input (.line .sample (ascii "add router eth0 51")), .input (.line .sample fullLine)]

theorem formatted_fits_full : ∃ m, ∃ key : RouterKey, ∃ s, history .sample fullLines = some m ∧
    m.services[key]? = some s ∧ s.masterCommand.length = 989 ∧
    ∀ output ∈ showRouter .sample s ++ showRouterStats .sample s, output.Fits := by
  have set : (history .sample fullLines).any (fun m => m.services.toList.any fun p =>
      decide (p.2.masterCommand.length = 989)) = true := by
    decide +kernel
  obtain ⟨m, reached, set⟩ := (Option.any_eq_true _ _).mp set
  obtain ⟨⟨key, s⟩, inside, long⟩ := List.any_eq_true.mp set
  have stored := Std.TreeMap.mem_toList_iff_getElem?_eq_some.mp inside
  have short : ∀ h ∈ fullLines, ShortLine h := by
    intro h inside
    rcases List.mem_pair.mp inside with rfl | rfl
    · exact fun _ => (by decide : (ascii "add router eth0 51").length < bufferCapacity)
    · exact fun _ => (by decide +kernel : fullLine.length < bufferCapacity)
  exact ⟨m, key, s, reached, stored, of_decide_eq_true long,
    formatted_fits .sample .sample reached short key s stored⟩

end VrrpManager

end OpenVrrp
