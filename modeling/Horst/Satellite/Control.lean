import Horst.Foundation.Words
import Horst.Satellite.Exec

/-!
Control messages: how a text from earth is parsed, and which shell command the satellite
makes of it.
-/

set_option autoImplicit false
set_option relaxedAutoImplicit false

namespace Horst

open Foundation

def ControlMessage.parse (msg : Text) : Option ControlMessage :=
  match msg.idxOf? ' ' with
  | none => none
  | some firstSpace =>
      let commandType := msg.take firstSpace
      let rest := chomp '\n' (msg.drop (firstSpace + 1))
      if rest = [] then none
      else if commandType = "exec".toList then some (.shellCommandReq rest false)
      else if commandType = "status".toList then some (.daemonControlReq .status rest)
      else if commandType = "start".toList then some (.daemonControlReq .start rest)
      else if commandType = "stop".toList then some (.daemonControlReq .stop rest)
      else if commandType = "restart".toList then some (.daemonControlReq .restart rest)
      else none

/-- The word for an action in a control message, and in `systemctl`. -/
def DaemonCtlAction.word : DaemonCtlAction → Text
  | .start => "start".toList
  | .stop => "stop".toList
  | .restart => "restart".toList
  | .status => "status".toList

/-- The commands of the `ShellCommand`s that the table makes of a message. -/
def State.commandsFor (s : State) (msg : Text) : List Text :=
  match ControlMessage.parse msg with
  | none => []
  | some message =>
      ((s.pass (.controlMessage message)).2.filterMap Action.request?).map Prod.fst

def Satellite.onMessage (uvSpawn : Script → ℕ → Bool) (n : ℕ) (msg : Text) (sat : Satellite) :
    Option Satellite :=
  match ControlMessage.parse msg with
  | none => some sat
  | some message => Satellite.onEvent uvSpawn n (.controlMessage message) sat

structure Means (msg : Text) (commands : List Text) : Prop where
  once : commands.length ≤ 1
  exec : ∀ command : Text, command ≠ [] → command.getLast? ≠ some '\n' →
    Line '\n' ("exec".toList ++ ' ' :: command) msg → commands = [command]
  control : ∀ (action : DaemonCtlAction) (serviceName : Text), serviceName ≠ [] →
    ' ' ∉ serviceName → '\n' ∉ serviceName →
    Line '\n' (action.word ++ ' ' :: serviceName) msg →
    ∃ command, commands = [command] ∧
      words ' ' command = ["sudo".toList, "systemctl".toList, action.word, serviceName]
  blankless : ' ' ∉ msg → commands = []
  parameterless : ∀ word : Text, ' ' ∉ word → Line '\n' (word ++ [' ']) msg → commands = []
  unknown : ∀ word rest : Text, ' ' ∉ word → msg = word ++ ' ' :: rest →
    word ≠ "exec".toList → (∀ action : DaemonCtlAction, word ≠ action.word) → commands = []

/-- The message is translated to what it means, and nothing else is run for it. -/
def Satellite.Translates (uvSpawn : Script → ℕ → Bool) (sat : Satellite) (msg : Text) : Prop :=
  Means msg (sat.currentState.commandsFor msg) ∧
    ∀ n sat', sat.onMessage uvSpawn n msg = some sat' →
      sat'.requests.map Prod.fst =
        sat.requests.map Prod.fst ++ sat.currentState.commandsFor msg

def Controls (msg : Text) : Prop :=
  ∃ (action : DaemonCtlAction) (serviceName : Text), serviceName ≠ [] ∧ ' ' ∉ serviceName ∧
    '\n' ∉ serviceName ∧ Line '\n' (action.word ++ ' ' :: serviceName) msg

section Parse

variable {msg word rest : Text}

private theorem ControlMessage.parse_blankless (blankless : ' ' ∉ msg) : parse msg = none := by
  rw [parse, List.idxOf?_eq_none_iff.mpr blankless]

private theorem ControlMessage.parse_cut (fresh : ' ' ∉ word) :
    parse (word ++ ' ' :: rest) =
      if chomp '\n' rest = [] then none
      else if word = "exec".toList then some (.shellCommandReq (chomp '\n' rest) false)
      else if word = "status".toList then some (.daemonControlReq .status (chomp '\n' rest))
      else if word = "start".toList then some (.daemonControlReq .start (chomp '\n' rest))
      else if word = "stop".toList then some (.daemonControlReq .stop (chomp '\n' rest))
      else if word = "restart".toList then some (.daemonControlReq .restart (chomp '\n' rest))
      else none := by
  have behind : (word ++ ' ' :: rest).drop (word.length + 1) = rest := by
    rw [← List.drop_drop, List.drop_left]
    rfl
  rw [parse, idxOf?_append_cons fresh]
  simp only [List.take_left, behind]

private theorem ControlMessage.parse_exec (some_ : chomp '\n' rest ≠ []) :
    parse ("exec".toList ++ ' ' :: rest) = some (.shellCommandReq (chomp '\n' rest) false) := by
  rw [parse_cut (by decide), if_neg some_, if_pos rfl]

private theorem ControlMessage.parse_control
    (action : DaemonCtlAction) (some_ : chomp '\n' rest ≠ []) :
    parse (action.word ++ ' ' :: rest) = some (.daemonControlReq action (chomp '\n' rest)) := by
  have fresh : ' ' ∉ action.word := by cases action <;> decide
  rw [parse_cut fresh, if_neg some_]
  cases action <;> rfl

private theorem ControlMessage.parse_parameterless
    (fresh : ' ' ∉ word) (empty : chomp '\n' rest = []) :
    parse (word ++ ' ' :: rest) = none := by
  rw [parse_cut fresh, if_pos empty]

private theorem ControlMessage.parse_unknown (fresh : ' ' ∉ word) (other : word ≠ "exec".toList)
    (none_ : ∀ action : DaemonCtlAction, word ≠ action.word) :
    parse (word ++ ' ' :: rest) = none := by
  have status : word ≠ "status".toList := none_ .status
  have start : word ≠ "start".toList := none_ .start
  have stop : word ≠ "stop".toList := none_ .stop
  have restart : word ≠ "restart".toList := none_ .restart
  rw [parse_cut fresh, if_neg other, if_neg status, if_neg start, if_neg stop, if_neg restart,
    ite_self]

end Parse

variable {uvSpawn : Script → ℕ → Bool} {sat sat' : Satellite} {s : State} {msg : Text}

private theorem State.commandsFor_eq (empty : s.computer.shellCommands = []) :
    s.commandsFor msg = (ControlMessage.parse msg).toList.map ControlMessage.command := by
  unfold commandsFor
  cases ControlMessage.parse msg with
  | none => rfl
  | some message =>
    obtain ⟨rules, list, none⟩ := State.pass_commands (.controlMessage message) empty
    have silent : rules.filterMap Action.request? = [] := List.filterMap_eq_nil_iff.mpr none
    change ((s.pass (.controlMessage message)).2.filterMap Action.request?).map Prod.fst = _
    rw [list, List.filterMap_append, silent]
    rfl

private theorem DaemonControlReq.words_command (action : DaemonCtlAction) {serviceName : Text}
    (blankless : ' ' ∉ serviceName) :
    words ' ' (command action serviceName) =
      ["sudo".toList, "systemctl".toList ++ action.word ++ serviceName] := by
  have glued : command action serviceName =
      "sudo".toList ++ ' ' :: ("systemctl".toList ++ action.word ++ serviceName) := by
    cases action <;> rfl
  have fresh : ' ' ∉ "systemctl".toList ++ action.word := by cases action <;> decide
  have whole : ' ' ∉ "systemctl".toList ++ action.word ++ serviceName := by
    intro mem
    rcases List.mem_append.mp mem with front | service
    · exact fresh front
    · exact blankless service
  rw [glued, words_cons (by decide) (by decide), words_single whole (by simp)]

private theorem State.means_of_not_controls (empty : s.computer.shellCommands = [])
    (other : ¬ Controls msg) : Means msg (s.commandsFor msg) := by
  rw [commandsFor_eq empty]
  refine ⟨?_, ?_, ?_, ?_, ?_, ?_⟩
  · cases ControlMessage.parse msg with
    | none => exact Nat.zero_le 1
    | some message => exact le_rfl
  · intro command nonempty complete line
    obtain ⟨rest, rfl, behind⟩ := line.cut
    have chomped : chomp '\n' rest = command := behind.chomp complete
    rw [ControlMessage.parse_exec (by rwa [chomped]), chomped]
    rfl
  · intro action serviceName nonempty blankless unbroken line
    exact absurd ⟨action, serviceName, nonempty, blankless, unbroken, line⟩ other
  · intro blankless
    rw [ControlMessage.parse_blankless blankless]
    rfl
  · intro word fresh line
    obtain ⟨rest, rfl, behind⟩ := line.cut
    have chomped : chomp '\n' rest = [] := behind.chomp (by simp)
    rw [ControlMessage.parse_parameterless fresh chomped]
    rfl
  · intro word rest fresh same exec_ none_
    rw [same, ControlMessage.parse_unknown fresh exec_ none_]
    rfl

private theorem State.not_means_of_controls (empty : s.computer.shellCommands = [])
    (controls : Controls msg) : ¬ Means msg (s.commandsFor msg) := by
  intro means
  obtain ⟨action, serviceName, nonempty, blankless, unbroken, line⟩ := controls
  obtain ⟨command, made, parts⟩ :=
    means.control action serviceName nonempty blankless unbroken line
  have complete : serviceName.getLast? ≠ some '\n' :=
    fun ends => unbroken (List.mem_of_getLast? ends)
  obtain ⟨rest, rfl, behind⟩ := line.cut
  have chomped : chomp '\n' rest = serviceName := behind.chomp complete
  rw [commandsFor_eq empty, ControlMessage.parse_control action (by rwa [chomped]), chomped]
    at made
  obtain rfl : DaemonControlReq.command action serviceName = command := List.singleton_inj.mp made
  rw [DaemonControlReq.words_command action blankless] at parts
  have lengths : 2 = 4 := congrArg List.length parts
  cases lengths

namespace Satellite

private theorem requests_onMessage {n : ℕ} (empty : sat.currentState.computer.shellCommands = [])
    (h : sat.onMessage uvSpawn n msg = some sat') :
    sat'.requests.map Prod.fst =
      sat.requests.map Prod.fst ++ sat.currentState.commandsFor msg := by
  rw [State.commandsFor_eq empty]
  unfold onMessage at h
  cases parsed : ControlMessage.parse msg with
  | none =>
    rw [parsed] at h
    obtain rfl := Option.some.inj h
    exact (List.append_nil _).symm
  | some message =>
    rw [parsed] at h
    obtain ⟨_, requests⟩ := requests_onEvent empty h
    rw [requests, List.map_append]
    rfl

/-- Every message means the command that it is translated to, but for those that control a
service. -/
theorem translates_iff (uvSpawn : Script → ℕ → Bool) (sat : Satellite)
    (empty : sat.currentState.computer.shellCommands = []) (msg : Text) :
    sat.Translates uvSpawn msg ↔ ¬ Controls msg := by
  constructor
  · rintro ⟨means, _⟩ controls
    exact State.not_means_of_controls empty controls means
  · intro other
    exact ⟨State.means_of_not_controls empty other, fun n sat' => requests_onMessage empty⟩

/-- A command that is to be executed, with the end of its line. -/
theorem translates_iff_exec :
    (Satellite.new {} false).Translates (fun _ _ => true) "exec ls -l\n".toList ↔
      ¬ Controls "exec ls -l\n".toList :=
  translates_iff (fun _ _ => true) (Satellite.new {} false) rfl "exec ls -l\n".toList

/-- For `start foo` the satellite runs `sudo systemctlstartfoo`. -/
theorem service_not_started :
    ¬ ∀ (uvSpawn : Script → ℕ → Bool) (sat : Satellite) (msg : Text),
      sat.currentState.computer.shellCommands = [] → sat.Translates uvSpawn msg := by
  intro claim
  obtain ⟨means, _⟩ := claim (fun _ _ => true) (Satellite.new {} false) "start foo".toList rfl
  obtain ⟨command, made, parts⟩ :=
    means.control .start "foo".toList (by decide) (by decide) (by decide) (Or.inl rfl)
  have glued : (Satellite.new {} false).currentState.commandsFor "start foo".toList =
      ["sudo systemctlstartfoo".toList] := by
    decide +kernel
  rw [glued] at made
  obtain rfl : "sudo systemctlstartfoo".toList = command := List.singleton_inj.mp made
  revert parts
  decide +kernel

end Satellite

end Horst
