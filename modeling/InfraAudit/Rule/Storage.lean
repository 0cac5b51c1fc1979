import InfraAudit.Rule.Basic

/-!
Rules about storage buckets: public access, encryption and versioning.
-/
namespace InfraAudit.Rule.Storage

/-- The types of resources that are buckets. -/
def bucketTypes : List String := ["aws_s3_bucket"]

/-- The access lists that make a bucket public. -/
def publicAcls : List String := ["public-read", "public-read-write"]

/-! ### Public access -/

/-- The description of the rule about public access. -/
def publicAccessInfo : RuleInfo :=
  { id := "storage-public-access"
    title := "S3 Bucket Public Access"
    description := "S3 bucket should not allow public access"
    severity := .high
    category := .security
    provider := some "aws"
    resourceTypes := bucketTypes
    references :=
      ["https://docs.aws.amazon.com/AmazonS3/latest/userguide/access-control-block-public-access.html"] }

/-- The public access list of a bucket. -/
def publicAcl? (bucket : Value) : Option String :=
  (bucket.fieldStr? "acl").filter publicAcls.contains

/-- Buckets with a public access list are reported. -/
def publicAccess : Rule :=
  { info := publicAccessInfo
    evaluate := fun t =>
      .ok <| (publicAcl? t.resource).map fun acl =>
        (publicAccessInfo.finding t
          "S3 bucket has public ACL configuration"
          "Set ACL to \"private\" and configure aws_s3_bucket_public_access_block resource").withEvidence
          ("ACL is set to \"" ++ acl ++ "\"") }

/-! ### Encryption -/

/-- The description of the rule about encryption. -/
def noEncryptionInfo : RuleInfo :=
  { id := "storage-no-encryption"
    title := "S3 Bucket Encryption"
    description := "S3 bucket should have server-side encryption configured"
    severity := .high
    category := .security
    provider := some "aws"
    resourceTypes := bucketTypes
    references := ["https://docs.aws.amazon.com/AmazonS3/latest/userguide/serv-side-encryption.html"] }

/-- Whether a bucket has no block about encryption. -/
def isUnencrypted (bucket : Value) : Bool := bucket.isAbsent "server_side_encryption_configuration"

/-- Buckets without a block about encryption are reported. -/
def noEncryption : Rule :=
  { info := noEncryptionInfo
    evaluate := fun t =>
      .ok <|
        if isUnencrypted t.resource then
          some <| (noEncryptionInfo.finding t
            "S3 bucket does not have server-side encryption configured"
            "Add server_side_encryption_configuration block with AES256 or aws:kms encryption").withEvidence
            "Missing server_side_encryption_configuration block"
        else none }

/-! ### Versioning -/

/-- The description of the rule about versioning. -/
def noVersioningInfo : RuleInfo :=
  { id := "storage-no-versioning"
    title := "S3 Bucket Versioning"
    description := "S3 bucket should have versioning enabled"
    severity := .med
    category := .bestPractice
    provider := some "aws"
    resourceTypes := bucketTypes
    references := ["https://docs.aws.amazon.com/AmazonS3/latest/userguide/Versioning.html"] }

/-- The block about versioning: the first entry of a list, or an object. -/
def versioningBlock? (bucket : Value) : Option Value :=
  (bucket.firstEntry? "versioning").or ((bucket.field? "versioning").filter Value.isObject)

/-- Why a bucket counts as one without versioning. -/
def versioningGap? (bucket : Value) : Option String :=
  if bucket.isAbsent "versioning" then some "Missing versioning configuration"
  else
    let enabled := ((versioningBlock? bucket).bind (·.field? "enabled")).bind Value.bool?
    if enabled == some true then none else some "Versioning is disabled"

/-- Buckets without versioning, or with versioning that is not enabled, are
    reported. -/
def noVersioning : Rule :=
  { info := noVersioningInfo
    evaluate := fun t =>
      .ok <| (versioningGap? t.resource).map fun gap =>
        (noVersioningInfo.finding t
          "S3 bucket does not have versioning enabled"
          "Enable versioning to protect against accidental deletion and modification").withEvidence gap }

end InfraAudit.Rule.Storage
