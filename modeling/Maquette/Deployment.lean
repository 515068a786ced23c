import Maquette.Environment.File
import Maquette.Number.Notation
import Maquette.Number.Reading
import Maquette.Package.Defaults
import Maquette.Text.Quoted

/-!
# Deployment settings

The settings of a deployment of the packaging service. They come from the
environment, which a settings file may have completed.

Most settings are texts that are taken over, some are lists or switches, and the
lifetime of an access token is a number of minutes. Only this last one can be
malformed.
-/

namespace Maquette

/-- Why settings cannot be determined. -/
inductive DeploymentError
  /-- The lifetime of an access token is not the text of an integer. -/
  | notAnInteger (text : String)
  /-- The lifetime of an access token is written with this many digits, which is
  too many. -/
  | tooManyDigits (count : Nat)
  /-- The lifetime of an access token has this many days, which is too many. -/
  | lifetimeOutOfRange (days : Int)
deriving DecidableEq

/-- The most days of a lifetime, in either direction. -/
def lifetimeDays : Int := 999999999

/-- The days that can be named in a message. -/
def countableDays (days : Int) : Bool :=
  -2147483648 ≤ days && days ≤ 2147483647

/-- The message of settings that cannot be determined. -/
def DeploymentError.message : DeploymentError → String
  | notAnInteger text =>
    "invalid literal for int() with base 10: " ++
      String.ofList ((Text.quoted text.toList).take 200)
  | tooManyDigits count =>
    "Exceeds the limit (" ++ integerText Number.digitLimit ++
      " digits) for integer string conversion: value has " ++ integerText count ++
      " digits; use sys.set_int_max_str_digits() to increase the limit"
  | lifetimeOutOfRange days =>
    if countableDays days then
      "days=" ++ integerText days ++ "; must have magnitude <= " ++ integerText lifetimeDays
    else "Python int too large to convert to C int"

/-- The settings of a deployment. -/
structure Deployment where
  secretKey : String
  debug : Bool
  allowedHosts : List String
  trustedOrigins : List String
  allowedOrigins : List String
  allowsAllOrigins : Bool
  accessMinutes : Int
  logLevel : String
  logFile : Option String
  bundleId : String
  appVersion : String
  sdkConstraint : String
  outputDirectory : String
  mediaRoot : String
  staticRoot : String

namespace Deployment

/-- The names that settings are read from. -/
def names : List String := [
  "SECRET_KEY", "DEBUG", "ALLOWED_HOSTS", "CSRF_TRUSTED_ORIGINS", "CORS_ALLOWED_ORIGINS",
  "CORS_ALLOW_ALL_ORIGINS", "ACCESS_TOKEN_MINUTES", "BUILDER_LOG_LEVEL", "DJANGO_LOG_FILE",
  "BUNDLE_ID", "DEFAULT_APP_VERSION", "FLUTTER_SDK_CONSTRAINT", "PACKAGING_OUTPUT_DIR"]

/-- The minutes of a lifetime, if it is in range. -/
def lifetime (text : String) : Except DeploymentError Int :=
  let count := Number.leadingDigits text.toList
  if Number.digitLimit < count then .error (.tooManyDigits count)
  else
    match Number.wholeInteger? text.toList with
    | none => .error (.notAnInteger text)
    | some minutes =>
      let days := (minutes * 60).fdiv 86400
      if days.natAbs ≤ lifetimeDays.natAbs then .ok minutes
      else .error (.lifetimeOutOfRange days)

def ofEnvironment (base : String) (environment : Environment) :
    Except DeploymentError Deployment := do
  let debug := environment.isOn "DEBUG" "True"
  let accessMinutes ← lifetime (environment.value "ACCESS_TOKEN_MINUTES" "60")
  let logFile := environment.value "DJANGO_LOG_FILE" ""
  let media := Package.Defaults.below base "media"
  return {
    secretKey :=
      environment.value "SECRET_KEY" "django-insecure-appcreator-packager-development-key"
    debug
    allowedHosts := environment.pieces "ALLOWED_HOSTS" "*"
    trustedOrigins := environment.entries "CSRF_TRUSTED_ORIGINS" ""
    allowedOrigins := environment.entries "CORS_ALLOWED_ORIGINS" "http://localhost:5173"
    allowsAllOrigins :=
      environment.isOn "CORS_ALLOW_ALL_ORIGINS" (if debug then "True" else "False")
    accessMinutes
    logLevel := environment.value "BUILDER_LOG_LEVEL" "INFO"
    logFile := if logFile = "" then none else some logFile
    bundleId := environment.value "BUNDLE_ID" Package.Defaults.standardBundleId
    appVersion := environment.value "DEFAULT_APP_VERSION" Package.Defaults.standardAppVersion
    sdkConstraint :=
      environment.value "FLUTTER_SDK_CONSTRAINT" Package.Defaults.standardSdkConstraint
    outputDirectory :=
      environment.value "PACKAGING_OUTPUT_DIR"
        (Package.Defaults.below media Package.Defaults.packagesDirectory)
    mediaRoot := media
    staticRoot := Package.Defaults.below base "staticfiles" }

/-- The applications that the service is made of. -/
def installedApps : List String := [
  "django.contrib.admin",
  "django.contrib.auth",
  "django.contrib.contenttypes",
  "django.contrib.sessions",
  "django.contrib.messages",
  "django.contrib.staticfiles",
  "corsheaders",
  "rest_framework",
  "builder"]

/-- The layers that a request passes through. -/
def middleware : List String := [
  "corsheaders.middleware.CorsMiddleware",
  "django.middleware.security.SecurityMiddleware",
  "django.contrib.sessions.middleware.SessionMiddleware",
  "django.middleware.common.CommonMiddleware",
  "django.middleware.csrf.CsrfViewMiddleware",
  "django.contrib.auth.middleware.AuthenticationMiddleware",
  "django.contrib.messages.middleware.MessageMiddleware",
  "django.middleware.clickjacking.XFrameOptionsMiddleware"]

def refreshWeeks : Int := 2

def textsToJson (texts : List String) : Json :=
  .array (texts.map .string)

/-- A duration as a value. -/
def secondsToJson (seconds : Int) : Json :=
  .object [("seconds", .integer seconds)]

def tokens (d : Deployment) : Json :=
  .object [
    ("ALGORITHM", .string "HS256"),
    ("SIGNING_KEY", .string d.secretKey),
    ("VERIFYING_KEY", .null),
    ("AUTH_HEADER_TYPES", textsToJson ["Bearer", "JWT"]),
    ("USER_ID_FIELD", .string "id"),
    ("USER_ID_CLAIM", .string "uid"),
    ("TOKEN_TYPE_CLAIM", .string "typ"),
    ("ACCESS_TOKEN_LIFETIME", secondsToJson (d.accessMinutes * 60)),
    ("REFRESH_TOKEN_LIFETIME", secondsToJson (refreshWeeks * 7 * 86400))]

/-- What the log is written to: the console, and a file if one is set. -/
def handlers (d : Deployment) : Fields :=
  ("console", .object [
    ("level", .string "INFO"),
    ("class", .string "logging.StreamHandler"),
    ("formatter", .string "simple")]) ::
  match d.logFile with
  | none => []
  | some file => [
    ("file", .object [
      ("level", .string "INFO"),
      ("class", .string "logging.FileHandler"),
      ("filename", .string file),
      ("formatter", .string "simple")])]

/-- A source of log entries, which go to every handler. -/
def logger (d : Deployment) (level : String) (propagates : Bool) : Json :=
  .object [
    ("handlers", textsToJson (d.handlers.map (·.1))),
    ("level", .string level),
    ("propagate", .bool propagates)]

/-- The settings of the log. -/
def logging (d : Deployment) : Json :=
  .object [
    ("version", .integer 1),
    ("disable_existing_loggers", .bool false),
    ("formatters", .object [
      ("simple", .object [
        ("format", .string "\x7blevelname\x7d \x7basctime\x7d \x7bname\x7d: \x7bmessage\x7d"),
        ("style", .string "\x7b")])]),
    ("handlers", .object d.handlers),
    ("loggers", .object [
      ("django", d.logger "INFO" true),
      ("builder", d.logger d.logLevel false)])]

def settings (d : Deployment) : Fields := [
  ("SECRET_KEY", .string d.secretKey),
  ("DEBUG", .bool d.debug),
  ("ALLOWED_HOSTS", textsToJson d.allowedHosts),
  ("CSRF_TRUSTED_ORIGINS", textsToJson d.trustedOrigins),
  ("CORS_ALLOWED_ORIGINS", textsToJson d.allowedOrigins),
  ("CORS_ALLOW_ALL_ORIGINS", .bool d.allowsAllOrigins),
  ("SIMPLE_JWT", d.tokens),
  ("LOGGING", d.logging),
  ("BUNDLE_ID", .string d.bundleId),
  ("DEFAULT_APP_VERSION", .string d.appVersion),
  ("FLUTTER_SDK_CONSTRAINT", .string d.sdkConstraint),
  ("PACKAGING_OUTPUT_DIR", .string d.outputDirectory),
  ("MEDIA_ROOT", .string d.mediaRoot),
  ("STATIC_ROOT", .string d.staticRoot),
  ("INSTALLED_APPS", textsToJson installedApps),
  ("MIDDLEWARE", textsToJson middleware)]

end Deployment

end Maquette
