import Telemetry.Wire.Code

/-!
The fields of NetFlow version 9 flows: their codes, and how the bytes of each are to be taken.
The codes between 1 and 104 that are missing are reserved for vendors.
-/

namespace Telemetry.Netflow

open Wire

/-- How the bytes of a field are taken. -/
inductive FieldKind where
  /-- A big-endian number of one to eight bytes. -/
  | unsigned
  | ipv4
  | ipv6
  | mac
  /-- Text, which may be filled up with zero bytes. -/
  | text
  /-- Bytes as they come. -/
  | raw
deriving DecidableEq, Repr

def FieldKind.name : FieldKind → String
  | unsigned => "Unsigned"
  | ipv4 => "Ipv4"
  | ipv6 => "Ipv6"
  | mac => "Mac"
  | text => "String"
  | raw => "Opaque"

inductive FlowField where
  | inBytes
  | inPkts
  | flows
  | protocol
  | srcTos
  | tcpFlags
  | l4SrcPort
  | ipv4SrcAddr
  | srcMask
  | inputSnmp
  | l4DstPort
  | ipv4DstAddr
  | dstMask
  | outputSnmp
  | ipv4NextHop
  | srcAs
  | dstAs
  | bgpIpv4NextHop
  | mulDstPkts
  | mulDstBytes
  | lastSwitched
  | firstSwitched
  | outBytes
  | outPkts
  | minPktLength
  | maxPktLength
  | ipv6SrcAddr
  | ipv6DstAddr
  | ipv6SrcMask
  | ipv6DstMask
  | ipv6FlowLabel
  | icmpType
  | mulIgmpType
  | samplingInterval
  | samplingAlgorithm
  | flowActiveTimeout
  | flowInactiveTimeout
  | engineType
  | engineId
  | totalBytesExp
  | totalPktsExp
  | totalFlowsExp
  | ipv4SrcPrefix
  | ipv4DstPrefix
  | mplsTopLabelType
  | mplsTopLabelIpAddr
  | flowSamplerId
  | flowSamplerMode
  | flowSamplerRandomInterval
  | minTtl
  | maxTtl
  | ipv4Ident
  | dstTos
  | inSrcMac
  | outDstMac
  | srcVlan
  | dstVlan
  | ipProtocolVersion
  | direction
  | ipv6NextHop
  | bgpIpv6NextHop
  | ipv6OptionHeaders
  | mplsLabel1
  | mplsLabel2
  | mplsLabel3
  | mplsLabel4
  | mplsLabel5
  | mplsLabel6
  | mplsLabel7
  | mplsLabel8
  | mplsLabel9
  | mplsLabel10
  | inDstMac
  | outSrcMac
  | ifName
  | ifDesc
  | samplerName
  | inPermanentBytes
  | inPermanentPkts
  | fragmentOffset
  | forwardingStatus
  | mplsPalRd
  | mplsPrefixLen
  | srcTrafficIndex
  | dstTrafficIndex
  | applicationDescription
  | applicationTag
  | applicationName
  | postIpDiffServCodePoint
  | replicationFactor
  | layer2PacketSectionOffset
  | layer2PacketSectionSize
  | layer2PacketSectionData
deriving DecidableEq, Repr

namespace FlowField

def number : FlowField → Nat
  | inBytes => 1
  | inPkts => 2
  | flows => 3
  | protocol => 4
  | srcTos => 5
  | tcpFlags => 6
  | l4SrcPort => 7
  | ipv4SrcAddr => 8
  | srcMask => 9
  | inputSnmp => 10
  | l4DstPort => 11
  | ipv4DstAddr => 12
  | dstMask => 13
  | outputSnmp => 14
  | ipv4NextHop => 15
  | srcAs => 16
  | dstAs => 17
  | bgpIpv4NextHop => 18
  | mulDstPkts => 19
  | mulDstBytes => 20
  | lastSwitched => 21
  | firstSwitched => 22
  | outBytes => 23
  | outPkts => 24
  | minPktLength => 25
  | maxPktLength => 26
  | ipv6SrcAddr => 27
  | ipv6DstAddr => 28
  | ipv6SrcMask => 29
  | ipv6DstMask => 30
  | ipv6FlowLabel => 31
  | icmpType => 32
  | mulIgmpType => 33
  | samplingInterval => 34
  | samplingAlgorithm => 35
  | flowActiveTimeout => 36
  | flowInactiveTimeout => 37
  | engineType => 38
  | engineId => 39
  | totalBytesExp => 40
  | totalPktsExp => 41
  | totalFlowsExp => 42
  | ipv4SrcPrefix => 44
  | ipv4DstPrefix => 45
  | mplsTopLabelType => 46
  | mplsTopLabelIpAddr => 47
  | flowSamplerId => 48
  | flowSamplerMode => 49
  | flowSamplerRandomInterval => 50
  | minTtl => 52
  | maxTtl => 53
  | ipv4Ident => 54
  | dstTos => 55
  | inSrcMac => 56
  | outDstMac => 57
  | srcVlan => 58
  | dstVlan => 59
  | ipProtocolVersion => 60
  | direction => 61
  | ipv6NextHop => 62
  | bgpIpv6NextHop => 63
  | ipv6OptionHeaders => 64
  | mplsLabel1 => 70
  | mplsLabel2 => 71
  | mplsLabel3 => 72
  | mplsLabel4 => 73
  | mplsLabel5 => 74
  | mplsLabel6 => 75
  | mplsLabel7 => 76
  | mplsLabel8 => 77
  | mplsLabel9 => 78
  | mplsLabel10 => 79
  | inDstMac => 80
  | outSrcMac => 81
  | ifName => 82
  | ifDesc => 83
  | samplerName => 84
  | inPermanentBytes => 85
  | inPermanentPkts => 86
  | fragmentOffset => 88
  | forwardingStatus => 89
  | mplsPalRd => 90
  | mplsPrefixLen => 91
  | srcTrafficIndex => 92
  | dstTrafficIndex => 93
  | applicationDescription => 94
  | applicationTag => 95
  | applicationName => 96
  | postIpDiffServCodePoint => 98
  | replicationFactor => 99
  | layer2PacketSectionOffset => 102
  | layer2PacketSectionSize => 103
  | layer2PacketSectionData => 104

def name : FlowField → String
  | inBytes => "InBytes"
  | inPkts => "InPkts"
  | flows => "Flows"
  | protocol => "Protocol"
  | srcTos => "SrcTos"
  | tcpFlags => "TcpFlags"
  | l4SrcPort => "L4SrcPort"
  | ipv4SrcAddr => "Ipv4SrcAddr"
  | srcMask => "SrcMask"
  | inputSnmp => "InputSnmp"
  | l4DstPort => "L4DstPort"
  | ipv4DstAddr => "Ipv4DstAddr"
  | dstMask => "DstMask"
  | outputSnmp => "OutputSnmp"
  | ipv4NextHop => "Ipv4NextHop"
  | srcAs => "SrcAs"
  | dstAs => "DstAs"
  | bgpIpv4NextHop => "BgpIpv4NextHop"
  | mulDstPkts => "MulDstPkts"
  | mulDstBytes => "MulDstBytes"
  | lastSwitched => "LastSwitched"
  | firstSwitched => "FirstSwitched"
  | outBytes => "OutBytes"
  | outPkts => "OutPkts"
  | minPktLength => "MinPktLength"
  | maxPktLength => "MaxPktLength"
  | ipv6SrcAddr => "Ipv6SrcAddr"
  | ipv6DstAddr => "Ipv6DstAddr"
  | ipv6SrcMask => "Ipv6SrcMask"
  | ipv6DstMask => "Ipv6DstMask"
  | ipv6FlowLabel => "Ipv6FlowLabel"
  | icmpType => "IcmpType"
  | mulIgmpType => "MulIgmpType"
  | samplingInterval => "SamplingInterval"
  | samplingAlgorithm => "SamplingAlgorithm"
  | flowActiveTimeout => "FlowActiveTimeout"
  | flowInactiveTimeout => "FlowInactiveTimeout"
  | engineType => "EngineType"
  | engineId => "EngineId"
  | totalBytesExp => "TotalBytesExp"
  | totalPktsExp => "TotalPktsExp"
  | totalFlowsExp => "TotalFlowsExp"
  | ipv4SrcPrefix => "Ipv4SrcPrefix"
  | ipv4DstPrefix => "Ipv4DstPrefix"
  | mplsTopLabelType => "MplsTopLabelType"
  | mplsTopLabelIpAddr => "MplsTopLabelIpAddr"
  | flowSamplerId => "FlowSamplerId"
  | flowSamplerMode => "FlowSamplerMode"
  | flowSamplerRandomInterval => "FlowSamplerRandomInterval"
  | minTtl => "MinTtl"
  | maxTtl => "MaxTtl"
  | ipv4Ident => "Ipv4Ident"
  | dstTos => "DstTos"
  | inSrcMac => "InSrcMac"
  | outDstMac => "OutDstMac"
  | srcVlan => "SrcVlan"
  | dstVlan => "DstVlan"
  | ipProtocolVersion => "IpProtocolVersion"
  | direction => "Direction"
  | ipv6NextHop => "Ipv6NextHop"
  | bgpIpv6NextHop => "BgpIpv6NextHop"
  | ipv6OptionHeaders => "Ipv6OptionHeaders"
  | mplsLabel1 => "MplsLabel1"
  | mplsLabel2 => "MplsLabel2"
  | mplsLabel3 => "MplsLabel3"
  | mplsLabel4 => "MplsLabel4"
  | mplsLabel5 => "MplsLabel5"
  | mplsLabel6 => "MplsLabel6"
  | mplsLabel7 => "MplsLabel7"
  | mplsLabel8 => "MplsLabel8"
  | mplsLabel9 => "MplsLabel9"
  | mplsLabel10 => "MplsLabel10"
  | inDstMac => "InDstMac"
  | outSrcMac => "OutSrcMac"
  | ifName => "IfName"
  | ifDesc => "IfDesc"
  | samplerName => "SamplerName"
  | inPermanentBytes => "InPermanentBytes"
  | inPermanentPkts => "InPermanentPkts"
  | fragmentOffset => "FragmentOffset"
  | forwardingStatus => "ForwardingStatus"
  | mplsPalRd => "MplsPalRd"
  | mplsPrefixLen => "MplsPrefixLen"
  | srcTrafficIndex => "SrcTrafficIndex"
  | dstTrafficIndex => "DstTrafficIndex"
  | applicationDescription => "ApplicationDescription"
  | applicationTag => "ApplicationTag"
  | applicationName => "ApplicationName"
  | postIpDiffServCodePoint => "PostIpDiffServCodePoint"
  | replicationFactor => "ReplicationFactor"
  | layer2PacketSectionOffset => "Layer2PacketSectionOffset"
  | layer2PacketSectionSize => "Layer2PacketSectionSize"
  | layer2PacketSectionData => "Layer2PacketSectionData"

/-- All fields, by code. -/
def all : List FlowField :=
  [.inBytes, .inPkts, .flows, .protocol, .srcTos, .tcpFlags, .l4SrcPort, .ipv4SrcAddr, .srcMask,
  .inputSnmp, .l4DstPort, .ipv4DstAddr, .dstMask, .outputSnmp, .ipv4NextHop, .srcAs, .dstAs,
  .bgpIpv4NextHop, .mulDstPkts, .mulDstBytes, .lastSwitched, .firstSwitched, .outBytes, .outPkts,
  .minPktLength, .maxPktLength, .ipv6SrcAddr, .ipv6DstAddr, .ipv6SrcMask, .ipv6DstMask,
  .ipv6FlowLabel, .icmpType, .mulIgmpType, .samplingInterval, .samplingAlgorithm,
  .flowActiveTimeout, .flowInactiveTimeout, .engineType, .engineId, .totalBytesExp, .totalPktsExp,
  .totalFlowsExp, .ipv4SrcPrefix, .ipv4DstPrefix, .mplsTopLabelType, .mplsTopLabelIpAddr,
  .flowSamplerId, .flowSamplerMode, .flowSamplerRandomInterval, .minTtl, .maxTtl, .ipv4Ident,
  .dstTos, .inSrcMac, .outDstMac, .srcVlan, .dstVlan, .ipProtocolVersion, .direction, .ipv6NextHop,
  .bgpIpv6NextHop, .ipv6OptionHeaders, .mplsLabel1, .mplsLabel2, .mplsLabel3, .mplsLabel4,
  .mplsLabel5, .mplsLabel6, .mplsLabel7, .mplsLabel8, .mplsLabel9, .mplsLabel10, .inDstMac,
  .outSrcMac, .ifName, .ifDesc, .samplerName, .inPermanentBytes, .inPermanentPkts, .fragmentOffset,
  .forwardingStatus, .mplsPalRd, .mplsPrefixLen, .srcTrafficIndex, .dstTrafficIndex,
  .applicationDescription, .applicationTag, .applicationName, .postIpDiffServCodePoint,
  .replicationFactor, .layer2PacketSectionOffset, .layer2PacketSectionSize,
  .layer2PacketSectionData]

def kind : FlowField → FieldKind
  | ipv4SrcAddr | ipv4DstAddr | ipv4NextHop | bgpIpv4NextHop | ipv4SrcPrefix | ipv4DstPrefix
  | mplsTopLabelIpAddr => .ipv4
  | ipv6SrcAddr | ipv6DstAddr | ipv6NextHop | bgpIpv6NextHop => .ipv6
  | inSrcMac | outDstMac | inDstMac | outSrcMac => .mac
  | ifName | ifDesc | samplerName | applicationDescription | applicationName => .text
  | mplsPalRd | applicationTag | layer2PacketSectionData => .raw
  | _ => .unsigned

end FlowField

instance : Code FlowField where
  title := "FlowField"
  members := FlowField.all
  number := FlowField.number
  name := FlowField.name
  find_number a := by cases a <;> rfl

/-- What an option is about. -/
inductive ScopeType where
  | system
  | interface
  | lineCard
  | cache
  | template
deriving DecidableEq, Repr

instance : Code ScopeType where
  title := "ScopeType"
  members := [.system, .interface, .lineCard, .cache, .template]
  number
    | .system => 1
    | .interface => 2
    | .lineCard => 3
    | .cache => 4
    | .template => 5
  name
    | .system => "System"
    | .interface => "Interface"
    | .lineCard => "LineCard"
    | .cache => "Cache"
    | .template => "Template"
  find_number a := by cases a <;> rfl

end Telemetry.Netflow
