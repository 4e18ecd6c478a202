import OpenVrrp.Telnet.Formatting

/-! The commands of TelnetSession (telnetsession.cpp) that only reply: show, help and save. What
they reply depends on all services, and on things outside of VrrpManager. -/
namespace OpenVrrp

namespace Resp

def showRouter : Text := line "show router [INTF] [VRID] [ipv6] [stats]"
def showStats : Text := line "show stats"
def save : Text := line "save [FILENAME]"

def «show» : Text := showRouter ++ showStats
def help : Text := add ++ disableRouter ++ enableRouter ++ line "exit" ++ line "help" ++ remove ++
  set ++ save

def saved : Text := line "Save successfully"
def saveFailed : Text := line "Save failed"

end Resp

/-- What the replies take from elsewhere: the texts of the C library, the counters of VrrpSocket,
and what writeConfiguration returns for a file name. -/
structure Outside where
  names : Names
  routerChecksumErrors : Nat
  routerVersionErrors : Nat
  routerVrIdErrors : Nat
  writeConfiguration : Option Text → Bool

def Outside.sample : Outside := ⟨.sample, 0, 0, 0, fun _ => true⟩

namespace TelnetSession

section Model
variable (libc : Libc) (kernel : Kernel) (outside : Outside)

def onShowStatsCommand : List Output :=
  [labelled "Router Checksum Errors: " [.llu outside.routerChecksumErrors],
    labelled "Router Version Errors:  " [.llu outside.routerVersionErrors],
    labelled "Router VRID Errors:     " [.llu outside.routerVrIdErrors],
    .response [newline]]

def onShowCommand (services : ServiceMap VrrpService) (argv : List Text) : List Output :=
  if wordIs argv 1 "router" then
    match onShowRouterCommand libc services argv with
    | .error response => [.response response]
    | .ok shown => shown.flatMap fun s => s.outputs outside.names
  else if wordIs argv 1 "stats" then onShowStatsCommand outside
  else [.response Resp.«show»]

def onSaveCommand (argv : List Text) : List Output :=
  if outside.writeConfiguration argv[1]? then [.response Resp.saved]
  else [.response Resp.saveFailed]

/-- `onCommand` with the replies of the commands that leave VrrpManager as it is. -/
def answer (m : VrrpManager) (argv : List Text) : Reaction :=
  if wordIs argv 0 "show" then
    some (m, (onShowCommand libc outside (ServiceMap.nested m) argv).map Output.sent)
  else if wordIs argv 0 "help" then some (m, [Resp.help])
  else if wordIs argv 0 "save" then some (m, (onSaveCommand outside argv).map Output.sent)
  else onCommand libc kernel m argv

end Model

variable {libc : Libc} {kernel : Kernel} {outside : Outside} {m : VrrpManager}

theorem onCommand_idle {argv : List Text} (idle : wordIs argv 0 "show" = true ∨
    wordIs argv 0 "help" = true ∨ wordIs argv 0 "save" = true) :
    onCommand libc kernel m argv = some (m, []) := by
  simp only [wordIs, beq_iff_eq] at idle
  have apart : ∀ word ∈ ["show", "help", "save"], ∀ other ∈ ["add", "remove", "set", "enable",
      "disable"], (some (ascii word) == some (ascii other)) = false := by decide
  rcases idle with word | word | word
  all_goals
    simp only [onCommand, wordIs, word]
    rw [apart _ (by simp) "add" (by simp), apart _ (by simp) "remove" (by simp),
      apart _ (by simp) "set" (by simp), apart _ (by simp) "enable" (by simp),
      apart _ (by simp) "disable" (by simp)]
    rfl

/-- The replies that `onCommand` leaves out change nothing. -/
theorem answer_state (m : VrrpManager) (argv : List Text) :
    (answer libc kernel outside m argv).map Prod.fst =
      (onCommand libc kernel m argv).map Prod.fst := by
  unfold answer
  split
  · rename_i word
    rw [onCommand_idle (.inl word)]
    rfl
  · split
    · rename_i word
      rw [onCommand_idle (.inr (.inl word))]
      rfl
    · split
      · rename_i word
        rw [onCommand_idle (.inr (.inr word))]
        rfl
      · rfl

/-- What a line of `show router` picks. -/
def Shows (libc : Libc) (argv : List Text) (place : Slot) : Prop :=
  ∃ s, select libc (argv.drop 2) unselected = .ok s ∧ Picked s.completed place

theorem onShowRouterCommand_alike {services others : ServiceMap VrrpService} {argv : List Text}
    (same : ∀ place, Shows libc argv place → services.find place = others.find place) :
    onShowRouterCommand libc services argv = onShowRouterCommand libc others argv := by
  unfold onShowRouterCommand
  cases selected : select libc (argv.drop 2) unselected with
  | error response => rfl
  | ok s =>
    dsimp only
    rw [showServices_alike fun place picked => same place ⟨s, selected, picked⟩]

theorem onShowStatsCommand_fits (outside : Outside) :
    ∀ output ∈ onShowStatsCommand outside, output.Fits := by
  simp only [onShowStatsCommand, List.forall_mem_cons]
  exact ⟨llu_fits _ (by decide), llu_fits _ (by decide), llu_fits _ (by decide), trivial,
    fun output none => absurd none List.not_mem_nil⟩

/-- Whatever is shown fits m_buffer. -/
theorem onShowCommand_fits {happenings : List Happening}
    (reached : VrrpManager.history libc happenings = some m)
    (short : ∀ h ∈ happenings, VrrpManager.ShortLine h) (argv : List Text) :
    ∀ output ∈ onShowCommand libc outside (ServiceMap.nested m) argv, output.Fits := by
  have listed := VrrpManager.listed_fits outside.names reached short
    (ServiceMap.represents_nested m) argv
  intro output inside
  unfold onShowCommand at inside
  split at inside
  · cases answered : onShowRouterCommand libc (ServiceMap.nested m) argv with
    | error response =>
      rw [answered] at inside
      rw [List.mem_singleton.mp inside]
      trivial
    | ok shown =>
      rw [answered] at inside listed
      obtain ⟨s, there, within⟩ := List.mem_flatMap.mp inside
      exact listed s there output within
  · split at inside
    · exact onShowStatsCommand_fits outside output inside
    · rw [List.mem_singleton.mp inside]
      trivial

/-- Whatever nested maps the daemon has come to, the replies are the same. -/
theorem onShowCommand_represents {services : ServiceMap VrrpService}
    (represents : services.Represents m) (argv : List Text) :
    onShowCommand libc outside services argv =
      onShowCommand libc outside (ServiceMap.nested m) argv := by
  unfold onShowCommand
  rw [onShowRouterCommand_alike fun place _ =>
    represents.find_eq (ServiceMap.represents_nested m) place]

end TelnetSession

end OpenVrrp
