/-!
# Numeric codes of the game's enumerations

The engine passes many small enumerations as 32-bit integers: frame stages, player classes,
teams, life states, movement kinds, the states of buildings, plugin results and the kinds of
networked properties.  Each is a Lean enumeration with an instance of `Coded`, which lists its
values with their codes and labels.  `Coded.decode?` reads a code back: the value with that
code, or nothing for a number that is no code; `Coded.tryFrom` gives such a number back as its
error.
-/

namespace EngineSdk

/-- A finite enumeration whose values carry distinct integer codes and labels. -/
class Coded (α : Type) where
  /-- Every value, in code order. -/
  all : List α
  /-- The integer the engine uses for a value. -/
  code : α → Int
  /-- The name of a value. -/
  label : α → String

/-- The value whose code is `v`, if there is one. -/
def Coded.decode? {α : Type} [Coded α] (v : Int) : Option α :=
  (Coded.all : List α).find? fun e => Coded.code e == v

/-- Reads a code: the value with code `v`, or `v` itself back as the error when it is no code. -/
def Coded.tryFrom {α : Type} [Coded α] (v : Int) : Except Int α :=
  match Coded.decode? v with
  | some e => .ok e
  | none => .error v

/-- The stage of a client frame that a frame hook is called for. -/
inductive FrameStage where
  | undefined | start | netUpdateStart | netUpdatePostDataUpdateStart
  | netUpdatePostDataUpdateEnd | netUpdateEnd | renderStart | renderEnd
deriving DecidableEq, Repr

instance : Coded FrameStage where
  all := [.undefined, .start, .netUpdateStart, .netUpdatePostDataUpdateStart,
    .netUpdatePostDataUpdateEnd, .netUpdateEnd, .renderStart, .renderEnd]
  code
    | .undefined => -1 | .start => 0 | .netUpdateStart => 1
    | .netUpdatePostDataUpdateStart => 2 | .netUpdatePostDataUpdateEnd => 3
    | .netUpdateEnd => 4 | .renderStart => 5 | .renderEnd => 6
  label
    | .undefined => "Undefined" | .start => "Start" | .netUpdateStart => "NetUpdateStart"
    | .netUpdatePostDataUpdateStart => "NetUpdatePostDataUpdateStart"
    | .netUpdatePostDataUpdateEnd => "NetUpdatePostDataUpdateEnd"
    | .netUpdateEnd => "NetUpdateEnd" | .renderStart => "RenderStart" | .renderEnd => "RenderEnd"

/-- A player class. -/
inductive PlayerClass where
  | undefined | scout | sniper | soldier | demoman | medic | heavy | pyro | spy | engineer
deriving DecidableEq, Repr

instance : Coded PlayerClass where
  all := [.undefined, .scout, .sniper, .soldier, .demoman, .medic, .heavy, .pyro, .spy, .engineer]
  code
    | .undefined => 0 | .scout => 1 | .sniper => 2 | .soldier => 3 | .demoman => 4
    | .medic => 5 | .heavy => 6 | .pyro => 7 | .spy => 8 | .engineer => 9
  label
    | .undefined => "Undefined" | .scout => "Scout" | .sniper => "Sniper" | .soldier => "Soldier"
    | .demoman => "Demoman" | .medic => "Medic" | .heavy => "Heavy" | .pyro => "Pyro"
    | .spy => "Spy" | .engineer => "Engineer"

/-- The lower-case name of a player class. -/
def PlayerClass.name : PlayerClass → String
  | .undefined => "undefined" | .scout => "scout" | .sniper => "sniper" | .soldier => "soldier"
  | .demoman => "demoman" | .medic => "medic" | .heavy => "heavy" | .pyro => "pyro"
  | .spy => "spy" | .engineer => "engineer"

/-- A team. -/
inductive Team where
  | unassigned | spectator | red | blue
deriving DecidableEq, Repr

instance : Coded Team where
  all := [.unassigned, .spectator, .red, .blue]
  code | .unassigned => 0 | .spectator => 1 | .red => 2 | .blue => 3
  label | .unassigned => "Unassigned" | .spectator => "Spectator" | .red => "Red" | .blue => "Blue"

/-- Whether a team takes part in play: red and blue do. -/
def Team.isPlaying : Team → Bool
  | .red | .blue => true
  | _ => false

/-- Where an entity is between living and gone. -/
inductive LifeState where
  | alive | dying | dead | respawnable | discardBody
deriving DecidableEq, Repr

instance : Coded LifeState where
  all := [.alive, .dying, .dead, .respawnable, .discardBody]
  code | .alive => 0 | .dying => 1 | .dead => 2 | .respawnable => 3 | .discardBody => 4
  label
    | .alive => "Alive" | .dying => "Dying" | .dead => "Dead" | .respawnable => "Respawnable"
    | .discardBody => "DiscardBody"

/-- How an entity moves. -/
inductive MoveType where
  | none | isometric | walk | step | fly | flyGravity | vphysics | push | noclip | ladder
  | observer | custom
deriving DecidableEq, Repr

instance : Coded MoveType where
  all := [.none, .isometric, .walk, .step, .fly, .flyGravity, .vphysics, .push, .noclip, .ladder,
    .observer, .custom]
  code
    | .none => 0 | .isometric => 1 | .walk => 2 | .step => 3 | .fly => 4 | .flyGravity => 5
    | .vphysics => 6 | .push => 7 | .noclip => 8 | .ladder => 9 | .observer => 10 | .custom => 11
  label
    | .none => "None" | .isometric => "Isometric" | .walk => "Walk" | .step => "Step"
    | .fly => "Fly" | .flyGravity => "FlyGravity" | .vphysics => "VPhysics" | .push => "Push"
    | .noclip => "Noclip" | .ladder => "Ladder" | .observer => "Observer" | .custom => "Custom"

/-- The state of a teleporter. -/
inductive TeleporterState where
  | building | idle | ready | sending | receiving | receivingRelease | recharging | upgrading
deriving DecidableEq, Repr

instance : Coded TeleporterState where
  all := [.building, .idle, .ready, .sending, .receiving, .receivingRelease, .recharging,
    .upgrading]
  code
    | .building => 0 | .idle => 1 | .ready => 2 | .sending => 3 | .receiving => 4
    | .receivingRelease => 5 | .recharging => 6 | .upgrading => 7
  label
    | .building => "Building" | .idle => "Idle" | .ready => "Ready" | .sending => "Sending"
    | .receiving => "Receiving" | .receivingRelease => "ReceivingRelease"
    | .recharging => "Recharging" | .upgrading => "Upgrading"

/-- The state of a sentry gun. -/
inductive SentryState where
  | inactive | searching | attacking | upgrading
deriving DecidableEq, Repr

instance : Coded SentryState where
  all := [.inactive, .searching, .attacking, .upgrading]
  code | .inactive => 0 | .searching => 1 | .attacking => 2 | .upgrading => 3
  label
    | .inactive => "Inactive" | .searching => "Searching" | .attacking => "Attacking"
    | .upgrading => "Upgrading"

/-- The kind of a building. -/
inductive BuildingKind where
  | dispenser | teleporter | sentrygun | attachmentSapper
deriving DecidableEq, Repr

instance : Coded BuildingKind where
  all := [.dispenser, .teleporter, .sentrygun, .attachmentSapper]
  code | .dispenser => 0 | .teleporter => 1 | .sentrygun => 2 | .attachmentSapper => 3
  label
    | .dispenser => "Dispenser" | .teleporter => "Teleporter" | .sentrygun => "Sentrygun"
    | .attachmentSapper => "AttachmentSapper"

/-- What a plugin callback asks the engine to do next. -/
inductive PluginResult where
  | continue | override | stop
deriving DecidableEq, Repr

instance : Coded PluginResult where
  all := [.continue, .override, .stop]
  code | .continue => 0 | .override => 1 | .stop => 2
  label | .continue => "Continue" | .override => "Override" | .stop => "Stop"

/-- The kind of a networked property. -/
inductive PropKind where
  | int | float | vector | vectorXY | string | array | dataTable | int64
deriving DecidableEq, Repr

instance : Coded PropKind where
  all := [.int, .float, .vector, .vectorXY, .string, .array, .dataTable, .int64]
  code
    | .int => 0 | .float => 1 | .vector => 2 | .vectorXY => 3 | .string => 4 | .array => 5
    | .dataTable => 6 | .int64 => 7
  label
    | .int => "Int" | .float => "Float" | .vector => "Vector" | .vectorXY => "VectorXY"
    | .string => "String" | .array => "Array" | .dataTable => "DataTable" | .int64 => "Int64"

/-- The most players a server holds. -/
def maxPlayers : Nat := 101

/-! Bits of a player's flags. -/
namespace PlayerFlags

/-- Standing on the ground. -/
def onGround : Int := 1
/-- Ducking. -/
def ducking : Int := 2
/-- In water. -/
def inWater : Int := 512

end PlayerFlags

end EngineSdk
