import InfraAudit.Risk.Basic

/-!
Concerns about the resources of the provider `aws`.
-/
namespace InfraAudit.Risk.Aws

/-! ### Buckets -/

/-- Whether a bucket's access list is public. -/
def isPublicBucket (bucket : Value) : Bool :=
  let acl := bucket.fieldStr? "acl"
  acl == some "public-read" || acl == some "public-read-write"

/-- Whether a bucket's versioning is on. -/
def isVersioned (bucket : Value) : Bool :=
  (bucket.firstEntry? "versioning").any (·.isTruthy "enabled")

/-- The concern about public buckets. -/
def publicBucket : Concern :=
  ⟨"S3 bucket has public ACL", "Use private ACL and configure public access block", .high⟩

/-- The concern about buckets without encryption. -/
def unencryptedBucket : Concern :=
  ⟨"S3 bucket lacks server-side encryption", "Enable server-side encryption with KMS", .medium⟩

/-- The concern about buckets without versioning. -/
def unversionedBucket : Concern :=
  ⟨"S3 bucket versioning is disabled", "Enable versioning for data protection", .low⟩

/-- The concerns about a bucket. -/
def bucketConcerns (bucket : Value) : List Concern :=
  concernIf (isPublicBucket bucket) publicBucket ++
    concernIf (bucket.isAbsent "server_side_encryption_configuration") unencryptedBucket ++
    concernIf (!isVersioned bucket) unversionedBucket

/-! ### Security groups -/

/-- The ports of an entry: all for every protocol; else from the first port, which is
    0 when it is no number, to the last one, which is 65535 when it is no number or
    zero. -/
def portsOf (entry : Value) : Int × Int :=
  let protocol := entry.fieldStr? "protocol"
  if protocol == some "-1" || protocol == some "all" then (0, 65535)
  else
    (((entry.field? "from_port").bind Value.int64?).getD 0,
      (((entry.field? "to_port").bind Value.int64?).filter (· != 0)).getD 65535)

/-- Whether an entry opens a sensitive port, or all ports, to the internet. -/
def isOpenEntry (entry : Value) : Bool :=
  entry.containsStr "cidr_blocks" "0.0.0.0/0" &&
    (let (first, last) := portsOf entry
     let reaches (port : Int) : Bool := first ≤ port && port ≤ last
     reaches 22 || reaches 3389 || (first ≤ 0 && 65535 ≤ last))

/-- The concern about open entries. -/
def openEntry : Concern :=
  ⟨"Security group allows unrestricted access to sensitive ports",
    "Restrict source IP ranges and limit port access", .critical⟩

/-- The concerns about the entries of a security group. -/
def entryConcerns (entries : List Value) : List Concern :=
  entries.flatMap fun entry => concernIf (isOpenEntry entry) openEntry

/-! ### Instances -/

/-- The tokens that an instance asks for. -/
def httpTokens? (machine : Value) : Option String :=
  (machine.firstEntry? "metadata_options").bind (·.fieldStr? "http_tokens")

/-- The concern about instances with public addresses. -/
def publicAddress : Concern :=
  ⟨"EC2 instance has public IP address",
    "Use NAT Gateway or VPC endpoints instead of direct internet access", .medium⟩

/-- The concern about instances that do not ask for tokens. -/
def tokensOptional : Concern :=
  ⟨"EC2 instance does not require IMDSv2", "Enable IMDSv2 requirement for enhanced security", .medium⟩

/-- The concerns about an instance. -/
def machineConcerns (machine : Value) : List Concern :=
  concernIf (machine.isTruthy "associate_public_ip_address") publicAddress ++
    concernIf (httpTokens? machine != some "required") tokensOptional

/-! ### Databases -/

/-- The concern about public databases. -/
def publicDatabase : Concern :=
  ⟨"RDS instance is publicly accessible", "Disable public accessibility and use VPC endpoints", .high⟩

/-- The concern about databases without encryption. -/
def unencryptedDatabase : Concern :=
  ⟨"RDS instance storage is not encrypted", "Enable storage encryption", .medium⟩

/-- The concerns about a database. -/
def databaseConcerns (database : Value) : List Concern :=
  concernIf (database.isTruthy "publicly_accessible") publicDatabase ++
    concernIf (!database.isTruthy "storage_encrypted") unencryptedDatabase

/-- The concerns about the planned state of a resource. -/
def concerns (resourceType : String) (state : Value) : List Concern :=
  match resourceType with
  | "aws_s3_bucket" => bucketConcerns state
  | "aws_security_group" => entryConcerns (state.entries "ingress" ++ state.entries "egress")
  | "aws_security_group_rule" => entryConcerns [state]
  | "aws_instance" => machineConcerns state
  | "aws_db_instance" => databaseConcerns state
  | _ => []

end InfraAudit.Risk.Aws
