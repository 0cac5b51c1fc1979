import InfraAudit.Rule.Basic

/-!
Rules about security groups: ports and traffic that are open to the whole internet.

A security group lists its entries by direction; a security group rule is a single
entry, whose type names the direction.
-/
namespace InfraAudit.Rule.Network

/-- The types of resources with entries. -/
def securityGroupTypes : List String := ["aws_security_group", "aws_security_group_rule"]

/-- The ports that must not be open to the internet. -/
def sensitivePorts : List Int := [22, 3389, 1433, 3306, 5432, 6379, 27017]

/-- The block of all addresses of version 4. -/
def anyIpv4 : String := "0.0.0.0/0"

/-- The block of all addresses of version 6. -/
def anyIpv6 : String := "::/0"

/-- The least port. -/
def minPort : Int := 0

/-- The greatest port. -/
def maxPort : Int := 65535

/-- The port of secure shells. -/
def sshPort : Int := 22

/-- The direction of traffic. -/
inductive Direction where
  | ingress
  | egress
  deriving DecidableEq, Repr

/-- The name of a direction. -/
def Direction.name : Direction → String
  | .ingress => "ingress"
  | .egress => "egress"

/-! ### Entries -/

/-- The entries of a target in a direction. -/
def entries (t : Target) (d : Direction) : Except RuleError (List Value) :=
  if t.resourceType == "aws_security_group_rule" then
    .ok (if t.resource.fieldStr? "type" == some d.name then [t.resource] else [])
  else
    match t.resource.field? d.name with
    | none | some .null => .ok []
    | some (.array items) => .ok items
    | some _ => .error (.malformed d.name "expected a list of rule blocks")

/-- The block of all addresses for which an entry is open. -/
def openBlock? (entry : Value) : Option String :=
  if entry.containsStr "cidr_blocks" anyIpv4 then some anyIpv4
  else if entry.containsStr "ipv6_cidr_blocks" anyIpv6 then some anyIpv6
  else none

/-- An inclusive range of ports. -/
structure PortRange where
  first : Int
  last : Int
  deriving DecidableEq, Repr

namespace PortRange

/-- All ports. -/
def full : PortRange := ⟨minPort, maxPort⟩

/-- Whether a port lies in a range. -/
def contains (r : PortRange) (port : Int) : Bool := r.first ≤ port && port ≤ r.last

/-- Whether a range has all ports. -/
def isFull (r : PortRange) : Bool := r.first ≤ minPort && maxPort ≤ r.last

end PortRange

/-- Whether an entry is about every protocol. -/
def anyProtocol (entry : Value) : Bool :=
  let protocol := entry.fieldStr? "protocol"
  protocol == some "-1" || protocol == some "all"

/-- The port under a key of an entry. -/
def port? (entry : Value) (key : String) : Except RuleError (Option Int) :=
  match entry.field? key with
  | none | some .null => .ok none
  | some v =>
    match v.int64? with
    | some n => .ok (some n)
    | none => .error (.malformed key ("expected a port number, got " ++ v.compact))

/-- The ports of an entry. Every protocol has all ports; a first port that is
    missing is the least one, and a last port that is missing or zero is the
    greatest one. -/
def portRange (entry : Value) : Except RuleError PortRange :=
  if anyProtocol entry then .ok .full
  else do
    let first ← port? entry "from_port"
    let last ← port? entry "to_port"
    return ⟨first.getD minPort, (last.filter (· != 0)).getD maxPort⟩

/-- What the first entry gives for which a probe gives something; an entry on which
    the probe fails before that is the failure of all. -/
def firstOf {α : Type} (probe : Value → Except RuleError (Option α)) :
    List Value → Except RuleError (Option α)
  | [] => .ok none
  | entry :: rest =>
    match probe entry with
    | .error e => .error e
    | .ok (some a) => .ok (some a)
    | .ok none => firstOf probe rest

/-! ### Open ingress -/

/-- The reference of the rules about open groups. -/
def groupReference : String := "https://docs.aws.amazon.com/vpc/latest/userguide/VPC_SecurityGroups.html"

/-- The description of the rule about open ingress. -/
def openIngressInfo : RuleInfo :=
  { id := "network-open-ingress"
    title := "Security Group Open to All"
    description := "Security group should not allow unrestricted access from 0.0.0.0/0"
    severity := .crit
    category := .security
    provider := some "aws"
    resourceTypes := securityGroupTypes
    references := [groupReference] }

/-- The sensitive ports in a range. -/
def exposedPorts (r : PortRange) : List Int := sensitivePorts.filter r.contains

/-- How an entry exposes sensitive ports. -/
def ingressExposure (entry : Value) : Except RuleError (Option String) :=
  match openBlock? entry with
  | none => .ok none
  | some block => do
    let exposed := exposedPorts (← portRange entry)
    if exposed.isEmpty then return none
    else
      return some ("Ingress rule allows " ++ block ++ " access to ports: " ++
        String.intercalate ", " (exposed.map toString))

/-- Entries that open sensitive ports to the internet are reported. -/
def openIngress : Rule :=
  { info := openIngressInfo
    evaluate := fun t => do
      let evidence ← firstOf ingressExposure (← entries t .ingress)
      return evidence.map (openIngressInfo.finding t
        "Security group allows unrestricted access to sensitive ports"
        "Restrict source CIDR blocks to specific IP ranges and limit port access").withEvidence }

/-! ### Open egress -/

/-- The description of the rule about open egress. -/
def openEgressInfo : RuleInfo :=
  { id := "network-open-egress"
    title := "Security Group Open to All"
    description := "Security group should not allow unrestricted outbound access to 0.0.0.0/0"
    severity := .crit
    category := .security
    provider := some "aws"
    resourceTypes := securityGroupTypes
    references := [groupReference] }

/-- How an entry lets all traffic out. -/
def egressExposure (entry : Value) : Except RuleError (Option String) :=
  match openBlock? entry with
  | none => .ok none
  | some block => do
    if (← portRange entry).isFull then
      return some ("Egress rule allows " ++ block ++ " access to all ports")
    else return none

/-- Entries that let traffic out on all ports are reported, one level below the
    severity of the rule. -/
def openEgress : Rule :=
  { info := openEgressInfo
    evaluate := fun t => do
      let evidence ← firstOf egressExposure (← entries t .egress)
      return evidence.map ((openEgressInfo.finding t
        "Security group allows unrestricted outbound access"
        "Limit outbound traffic to specific destinations and ports").withSeverity .high).withEvidence }

/-! ### Open secure shell -/

/-- The description of the rule about secure shells. -/
def sshOpenInfo : RuleInfo :=
  { id := "network-ssh-open"
    title := "SSH Access Open to Internet"
    description := "Security group should not allow SSH access from 0.0.0.0/0"
    severity := .crit
    category := .security
    provider := some "aws"
    resourceTypes := securityGroupTypes
    references :=
      ["https://docs.aws.amazon.com/systems-manager/latest/userguide/session-manager.html"] }

/-- How an entry opens the port of secure shells. -/
def sshExposure (entry : Value) : Except RuleError (Option String) :=
  if entry.containsStr "cidr_blocks" anyIpv4 then do
    if (← portRange entry).contains sshPort then
      return some "SSH port (22) is accessible from 0.0.0.0/0"
    else return none
  else .ok none

/-- Entries that open the port of secure shells to all addresses of version 4 are
    reported. -/
def sshOpen : Rule :=
  { info := sshOpenInfo
    evaluate := fun t => do
      let evidence ← firstOf sshExposure (← entries t .ingress)
      return evidence.map (sshOpenInfo.finding t
        "Security group allows SSH access from anywhere on the internet"
        "Restrict SSH access to specific IP addresses or use AWS Systems Manager Session Manager").withEvidence }

end InfraAudit.Rule.Network
