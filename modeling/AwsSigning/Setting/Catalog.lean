/-
AwsSigning/Setting/Catalog.lean

The settings there are, each with the names it goes by and its default.
-/
import AwsSigning.Endpoint.AccountId
import AwsSigning.Retry.Options

namespace AwsSigning.Setting

/-! ### Credentials and regions -/

/-- The id of a static access key. -/
def accessKeyId : Setting String :=
  ⟨"AWS_ACCESS_KEY_ID", "aws.accessKeyId", some "aws_access_key_id", none, readText⟩

/-- The secret of a static access key. -/
def secretAccessKey : Setting String :=
  ⟨"AWS_SECRET_ACCESS_KEY", "aws.secretAccessKey", some "aws_secret_access_key", none, readText⟩

/-- The token of temporary credentials. -/
def sessionToken : Setting String :=
  ⟨"AWS_SESSION_TOKEN", "aws.sessionToken", some "aws_session_token", none, readText⟩

/-- The region that requests go to. -/
def region : Setting String := ⟨"AWS_REGION", "aws.region", some "region", none, readText⟩

/-! ### Shared configuration -/

/-- The path of the config file. -/
def configFile : Setting String :=
  ⟨"AWS_CONFIG_FILE", "aws.configFile", none, some "~/.aws/config", readText⟩

/-- The path of the credentials file. -/
def credentialsFile : Setting String :=
  ⟨"AWS_SHARED_CREDENTIALS_FILE", "aws.sharedCredentialsFile", none, some "~/.aws/credentials",
    readText⟩

/-- The name of the active profile. -/
def profile : Setting String := ⟨"AWS_PROFILE", "aws.profile", none, some "default", readText⟩

/-! ### Instance metadata -/

/-- Instance metadata is not to be used. -/
def metadataDisabled : Setting Bool :=
  ⟨"AWS_EC2_METADATA_DISABLED", "aws.disableEc2Metadata", none, some false, readBool⟩

/-- Where the metadata service is. -/
def metadataEndpoint : Setting String :=
  ⟨"AWS_EC2_METADATA_SERVICE_ENDPOINT", "aws.ec2MetadataServiceEndpoint",
    some "ec2_metadata_service_endpoint", none, readText⟩

/-! ### Trying again -/

/-- The number of attempts for a request. -/
def maxAttempts : Setting Nat :=
  ⟨"AWS_MAX_ATTEMPTS", "aws.maxAttempts", some "max_attempts", none, Attempts.read⟩

/-- In which manner requests are tried again. -/
def retryMode : Setting RetryMode :=
  ⟨"AWS_RETRY_MODE", "aws.retryMode", some "retry_mode", none, RetryMode.read⟩

/-! ### Endpoints -/

/-- Endpoints have to follow the federal standard. -/
def useFips : Setting Bool :=
  ⟨"AWS_USE_FIPS_ENDPOINT", "aws.useFipsEndpoint", some "use_fips_endpoint", none, readBool⟩

/-- Endpoints have to be reachable by both versions of the protocol. -/
def useDualstack : Setting Bool :=
  ⟨"AWS_USE_DUALSTACK_ENDPOINT", "aws.useDualstackEndpoint", some "use_dualstack_endpoint", none,
    readBool⟩

/-- The endpoint itself. -/
def endpointUrl : Setting String :=
  ⟨"AWS_ENDPOINT_URL", "aws.endpointUrl", some "endpoint_url", none, readText⟩

/-- Configured endpoints do not count. -/
def ignoreEndpointUrls : Setting Bool :=
  ⟨"AWS_IGNORE_CONFIGURED_ENDPOINT_URLS", "aws.ignoreConfiguredEndpointUrls",
    some "ignore_configured_endpoint_urls", some false, readBool⟩

/-- The part an account id plays. -/
def accountIdMode : Setting AccountIdMode :=
  ⟨"AWS_ACCOUNT_ID_ENDPOINT_MODE", "aws.accountIdEndpointMode", some "account_id_endpoint_mode",
    none, AccountIdMode.read⟩

/-- Endpoints are discovered. -/
def endpointDiscovery : Setting Bool :=
  ⟨"AWS_ENABLE_ENDPOINT_DISCOVERY", "aws.endpointDiscoveryEnabled",
    some "endpoint_discovery_enabled", none, readBool⟩

end AwsSigning.Setting
