import InfraAudit.Record.Decoder

/-!
Containers of workloads, as far as rules look at them.

Other keys of a container do not count, and a field of the wrong form counts as one
that is not set.
-/
namespace InfraAudit.Cluster

open Record

/-- The resources that a container asks for. -/
structure Requirements where
  limits : Option Value

/-- The security settings of a container. -/
structure SecurityContext where
  allowPrivilegeEscalation : Option Bool
  runAsNonRoot : Option Bool
  deriving DecidableEq, Repr

/-- The security settings of a pod. -/
structure PodSecurityContext where
  runAsNonRoot : Option Bool
  deriving DecidableEq, Repr

/-- A container. -/
structure Container where
  name : String
  image : Option String
  resources : Option Requirements
  securityContext : Option SecurityContext

/-! ### Decoding and encoding -/

/-- The shape of requirements. -/
def Requirements.shape : Shape := ⟨"ResourceRequirements", 1⟩

/-- Decodes requirements. -/
def Requirements.decode : Decoder Requirements :=
  record shape fun s => Requirements.mk <$> s.field shape 0 "limits" (optional any) (.default none)

/-- Requirements as a value. -/
def Requirements.encode (r : Requirements) : Value := .object (fieldIfSome "limits" id r.limits)

/-- The shape of security settings. -/
def SecurityContext.shape : Shape := ⟨"SecurityContext", 2⟩

/-- Decodes security settings. -/
def SecurityContext.decode : Decoder SecurityContext :=
  record shape fun s =>
    SecurityContext.mk
      <$> s.field shape 0 "allowPrivilegeEscalation" (lenient boolean) (.default none)
      <*> s.field shape 1 "runAsNonRoot" (lenient boolean) (.default none)

/-- Security settings as a value. -/
def SecurityContext.encode (c : SecurityContext) : Value :=
  .object (
    fieldIfSome "allowPrivilegeEscalation" Value.bool c.allowPrivilegeEscalation ++
    fieldIfSome "runAsNonRoot" Value.bool c.runAsNonRoot)

/-- The shape of a pod's security settings. -/
def PodSecurityContext.shape : Shape := ⟨"PodSecurityContext", 1⟩

/-- Decodes a pod's security settings. -/
def PodSecurityContext.decode : Decoder PodSecurityContext :=
  record shape fun s =>
    PodSecurityContext.mk <$> s.field shape 0 "runAsNonRoot" (lenient boolean) (.default none)

/-- A pod's security settings as a value. -/
def PodSecurityContext.encode (c : PodSecurityContext) : Value :=
  .object (fieldIfSome "runAsNonRoot" Value.bool c.runAsNonRoot)

namespace Container

/-- The shape of a container. -/
def shape : Shape := ⟨"Container", 4⟩

/-- Decodes a container. -/
def decode : Decoder Container :=
  record shape fun s =>
    Container.mk
      <$> s.field shape 0 "name" string .required
      <*> s.field shape 1 "image" (lenient string) (.default none)
      <*> s.field shape 2 "resources" (lenient Requirements.decode) (.default none)
      <*> s.field shape 3 "securityContext" (lenient SecurityContext.decode) (.default none)

/-- A container as a value. -/
def encode (c : Container) : Value :=
  .object (
    [("name", .string c.name)] ++
    fieldIfSome "image" Value.string c.image ++
    fieldIfSome "resources" Requirements.encode c.resources ++
    fieldIfSome "securityContext" SecurityContext.encode c.securityContext)

/-! ### What containers do -/

/-- Whether the container's resources are limited. -/
def hasLimits (c : Container) : Bool := (c.resources.bind (·.limits)).isSome

/-- Whether the container must not run as root, by its own settings or else by
    those of its pod. -/
def effectiveRunAsNonRoot (c : Container) (pod : Option PodSecurityContext) : Option Bool :=
  (c.securityContext.bind (·.runAsNonRoot)).or (pod.bind (·.runAsNonRoot))

/-- Whether the container allows privilege escalation. -/
def allowsPrivilegeEscalation (c : Container) : Bool :=
  (c.securityContext.bind (·.allowPrivilegeEscalation)) == some true

/-- Whether an image is not pinned to a version: its tag is `latest`, or no colon
    introduces a tag. -/
def isUnpinned (image : String) : Bool :=
  (":latest".toList.isSuffixOf image.toList) || !image.toList.contains ':'

/-- Whether the container's image is not pinned to a version. A container without
    an image has none that is. -/
def usesLatestTag (c : Container) : Bool := c.image.all isUnpinned

end Container

end InfraAudit.Cluster
