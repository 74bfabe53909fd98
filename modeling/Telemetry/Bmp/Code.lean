import Telemetry.Wire.Code

/-!
The code points of BMP: the one version, the message types, and the types and reasons inside
messages.
-/

namespace Telemetry.Bmp

open Wire

/-- Only version 3 is in use. -/
inductive Version where
  | bmp3
deriving DecidableEq, Repr

inductive MessageType where
  | routeMonitoring
  | statisticsReport
  | peerDownNotification
  | peerUpNotification
  | initiationMessage
  | terminationMessage
  | routeMirroringMessage
deriving DecidableEq, Repr

/-- What kind of instance a monitored peer belongs to. -/
inductive PeerType where
  | globalInstance
  | distinguished
  | localInstance
deriving DecidableEq, Repr

/-- Why the session with a monitored peer ended. -/
inductive PeerDownReason where
  | localNotification
  | localNoNotification
  | remoteNotification
  | remoteNoNotification
  | peerDeConfigured
deriving DecidableEq, Repr

/-- What a mirrored message has to say about the mirroring itself. -/
inductive MirroringType where
  | erroredPdu
  | messagesLost
deriving DecidableEq, Repr

inductive MirroringTlvType where
  | bgpMessage
  | information
deriving DecidableEq, Repr

/-- Why a router ends its connection. -/
inductive TerminationReason where
  | administrativelyClosed
  | unspecifiedReason
  | outOfResources
  | redundantConnection
  | permanentlyAdministrativelyClosed
deriving DecidableEq, Repr

inductive InitiationTlvType where
  | string
  | sysDescr
  | sysName
deriving DecidableEq, Repr

inductive TerminationTlvType where
  | string
  | reason
deriving DecidableEq, Repr

inductive PeerUpTlvType where
  | string
  | sysDescr
  | sysName
  | vrTableName
  | adminLabel
deriving DecidableEq, Repr

/-- The statistics with a meaning known here. Others are legal, and carried as they come. -/
inductive StatType where
  | prefixesRejected
  | duplicatePrefixAdvertisements
  | duplicateWithdraws
  | updatesInvalidatedClusterListLoop
  | updatesInvalidatedAsPathLoop
  | updatesInvalidatedOriginatorId
  | updatesInvalidatedAsConfedLoop
  | routesAdjRibIn
  | routesLocRib
  | routesPerAfiSafiAdjRibIn
  | routesPerAfiSafiLocRib
  | updatesTreatedAsWithdraw
  | prefixesTreatedAsWithdraw
  | duplicateUpdates
deriving DecidableEq, Repr

instance : Code Version where
  title := "BmpVersion"
  members := [.bmp3]
  number _ := 3
  name _ := "Bmp3"
  find_number a := by cases a; rfl

namespace MessageType

def number : MessageType → Nat
  | routeMonitoring => 0
  | statisticsReport => 1
  | peerDownNotification => 2
  | peerUpNotification => 3
  | initiationMessage => 4
  | terminationMessage => 5
  | routeMirroringMessage => 6

def name : MessageType → String
  | routeMonitoring => "RouteMonitoring"
  | statisticsReport => "StatisticsReport"
  | peerDownNotification => "PeerDownNotification"
  | peerUpNotification => "PeerUpNotification"
  | initiationMessage => "InitiationMessage"
  | terminationMessage => "TerminationMessage"
  | routeMirroringMessage => "RouteMirroringMessage"

end MessageType

instance : Code MessageType where
  title := "BmpMsgType"
  members := [.routeMonitoring, .statisticsReport, .peerDownNotification, .peerUpNotification,
    .initiationMessage, .terminationMessage, .routeMirroringMessage]
  number := MessageType.number
  name := MessageType.name
  find_number a := by cases a <;> rfl

instance : Code PeerType where
  title := "PeerType"
  members := [.globalInstance, .distinguished, .localInstance]
  number
    | .globalInstance => 0
    | .distinguished => 1
    | .localInstance => 2
  name
    | .globalInstance => "Global"
    | .distinguished => "RD"
    | .localInstance => "Local"
  find_number a := by cases a <;> rfl

instance : Code PeerDownReason where
  title := "PeerDownReason"
  members := [.localNotification, .localNoNotification, .remoteNotification,
    .remoteNoNotification, .peerDeConfigured]
  number
    | .localNotification => 1
    | .localNoNotification => 2
    | .remoteNotification => 3
    | .remoteNoNotification => 4
    | .peerDeConfigured => 5
  name
    | .localNotification => "LocalNotification"
    | .localNoNotification => "LocalNoNotification"
    | .remoteNotification => "RemoteNotification"
    | .remoteNoNotification => "RemoteNoNotification"
    | .peerDeConfigured => "PeerDeConfigured"
  find_number a := by cases a <;> rfl

instance : Code MirroringType where
  title := "MirroringType"
  members := [.erroredPdu, .messagesLost]
  number
    | .erroredPdu => 0
    | .messagesLost => 1
  name
    | .erroredPdu => "ErroredPdu"
    | .messagesLost => "MessagesLost"
  find_number a := by cases a <;> rfl

instance : Code MirroringTlvType where
  title := "RouteMirroringTlvType"
  members := [.bgpMessage, .information]
  number
    | .bgpMessage => 0
    | .information => 1
  name
    | .bgpMessage => "BgpMessage"
    | .information => "Information"
  find_number a := by cases a <;> rfl

instance : Code TerminationReason where
  title := "TerminationReason"
  members := [.administrativelyClosed, .unspecifiedReason, .outOfResources, .redundantConnection,
    .permanentlyAdministrativelyClosed]
  number
    | .administrativelyClosed => 0
    | .unspecifiedReason => 1
    | .outOfResources => 2
    | .redundantConnection => 3
    | .permanentlyAdministrativelyClosed => 4
  name
    | .administrativelyClosed => "AdministrativelyClosed"
    | .unspecifiedReason => "UnspecifiedReason"
    | .outOfResources => "OutOfResources"
    | .redundantConnection => "RedundantConnection"
    | .permanentlyAdministrativelyClosed => "PermanentlyAdministrativelyClosed"
  find_number a := by cases a <;> rfl

instance : Code InitiationTlvType where
  title := "InitiationTlvType"
  members := [.string, .sysDescr, .sysName]
  number
    | .string => 0
    | .sysDescr => 1
    | .sysName => 2
  name
    | .string => "String"
    | .sysDescr => "SysDescr"
    | .sysName => "SysName"
  find_number a := by cases a <;> rfl

instance : Code TerminationTlvType where
  title := "TerminationTlvType"
  members := [.string, .reason]
  number
    | .string => 0
    | .reason => 1
  name
    | .string => "String"
    | .reason => "Reason"
  find_number a := by cases a <;> rfl

instance : Code PeerUpTlvType where
  title := "PeerUpTlvType"
  members := [.string, .sysDescr, .sysName, .vrTableName, .adminLabel]
  number
    | .string => 0
    | .sysDescr => 1
    | .sysName => 2
    | .vrTableName => 3
    | .adminLabel => 4
  name
    | .string => "String"
    | .sysDescr => "SysDescr"
    | .sysName => "SysName"
    | .vrTableName => "VrTableName"
    | .adminLabel => "AdminLabel"
  find_number a := by cases a <;> rfl

instance : Code StatType where
  title := "StatType"
  members := [.prefixesRejected, .duplicatePrefixAdvertisements, .duplicateWithdraws,
    .updatesInvalidatedClusterListLoop, .updatesInvalidatedAsPathLoop,
    .updatesInvalidatedOriginatorId, .updatesInvalidatedAsConfedLoop, .routesAdjRibIn,
    .routesLocRib, .routesPerAfiSafiAdjRibIn, .routesPerAfiSafiLocRib, .updatesTreatedAsWithdraw,
    .prefixesTreatedAsWithdraw, .duplicateUpdates]
  number
    | .prefixesRejected => 0
    | .duplicatePrefixAdvertisements => 1
    | .duplicateWithdraws => 2
    | .updatesInvalidatedClusterListLoop => 3
    | .updatesInvalidatedAsPathLoop => 4
    | .updatesInvalidatedOriginatorId => 5
    | .updatesInvalidatedAsConfedLoop => 6
    | .routesAdjRibIn => 7
    | .routesLocRib => 8
    | .routesPerAfiSafiAdjRibIn => 9
    | .routesPerAfiSafiLocRib => 10
    | .updatesTreatedAsWithdraw => 11
    | .prefixesTreatedAsWithdraw => 12
    | .duplicateUpdates => 13
  name
    | .prefixesRejected => "PrefixesRejected"
    | .duplicatePrefixAdvertisements => "DuplicatePrefixAdvertisements"
    | .duplicateWithdraws => "DuplicateWithdraws"
    | .updatesInvalidatedClusterListLoop => "UpdatesInvalidatedClusterListLoop"
    | .updatesInvalidatedAsPathLoop => "UpdatesInvalidatedAsPathLoop"
    | .updatesInvalidatedOriginatorId => "UpdatesInvalidatedOriginatorId"
    | .updatesInvalidatedAsConfedLoop => "UpdatesInvalidatedAsConfedLoop"
    | .routesAdjRibIn => "RoutesAdjRibIn"
    | .routesLocRib => "RoutesLocRib"
    | .routesPerAfiSafiAdjRibIn => "RoutesPerAfiSafiAdjRibIn"
    | .routesPerAfiSafiLocRib => "RoutesPerAfiSafiLocRib"
    | .updatesTreatedAsWithdraw => "UpdatesTreatedAsWithdraw"
    | .prefixesTreatedAsWithdraw => "PrefixesTreatedAsWithdraw"
    | .duplicateUpdates => "DuplicateUpdates"
  find_number a := by cases a <;> rfl

end Telemetry.Bmp
