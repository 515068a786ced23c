import Maquette.Template.Written
import Maquette.Text.Line

/-!
# The standard templates

The files of a packaged app that are fixed but for a few slots. A library of
templates looks among its own first, and a template of a standard name in it
takes the place of the standard one.
-/

namespace Maquette.Template

/-- The manifest of the package. -/
def pubspec : Template := [
  .text "name: ",
  .slot "package_name",
  .text (
    "\n" ++
    "description: A Flutter app generated by App Creator\n" ++
    "version: "),
  .slot "version",
  .text "+",
  .slot "build_number",
  .text (
    "\n" ++
    "\n" ++
    "environment:\n" ++
    "  sdk: '"),
  .slot "sdk_constraint",
  .text (
    "'\n" ++
    "  flutter: \">=3.0.0\"\n" ++
    "\n" ++
    "dependencies:\n" ++
    "  flutter:\n" ++
    "    sdk: flutter\n"),
  .each ["name", "version"] "dependencies" [
    .text "  ",
    .slot "name",
    .text ": ",
    .slot "version",
    .text "\n"],
  .text (
    "\n" ++
    "dev_dependencies:\n" ++
    "  flutter_test:\n" ++
    "    sdk: flutter\n"),
  .each ["name", "version"] "dev_dependencies" [
    .text "  ",
    .slot "name",
    .text ": ",
    .slot "version",
    .text "\n"],
  .text (
    "\n" ++
    "flutter:\n" ++
    "  uses-material-design: true\n" ++
    "  assets:\n" ++
    "    - assets/\n")]

/-- The Dart file that embeds the configuration of the app as a literal. -/
def embeddedData : Template := [
  .text "// Generated screens data for ",
  .slot "comment_name",
  .text (
    "\n" ++
    "import 'dart:convert';\n" ++
    "\n" ++
    "class ScreensData \x7b\n" ++
    "  static const String appConfigJson = '''"),
  .slot "config_json",
  .text (
    "''';\n" ++
    "\n" ++
    "  static Map<String, dynamic> get appConfig \x7b\n" ++
    "    return json.decode(appConfigJson);\n" ++
    "  \x7d\n" ++
    "\n" ++
    "  static List<dynamic> get screens \x7b\n" ++
    "    return appConfig['screens'] ?? [];\n" ++
    "  \x7d\n" ++
    "\n" ++
    "  static String get appName \x7b\n" ++
    "    return appConfig['appName'] ?? 'My App';\n" ++
    "  \x7d\n" ++
    "\n" ++
    "  static String get bundleId \x7b\n" ++
    "    return appConfig['bundleId'] ?? 'com.example.app';\n" ++
    "  \x7d\n" ++
    "\n" ++
    "  static String get projectId \x7b\n" ++
    "    return appConfig['projectId'] ?? '';\n" ++
    "  \x7d\n" ++
    "\n" ++
    "  static String get templateId \x7b\n" ++
    "    return appConfig['templateId'] ?? '';\n" ++
    "  \x7d\n" ++
    "\x7d\n")]

/-- The property list of the app on Apple devices. -/
def infoPlist : Template := [
  .text (
    "<?xml version=\"1.0\" encoding=\"UTF-8\"?>\n" ++
    "<!DOCTYPE plist PUBLIC \"-//Apple//DTD PLIST 1.0//EN\" " ++
    "\"http://www.apple.com/DTDs/PropertyList-1.0.dtd\">\n" ++
    "<plist version=\"1.0\">\n" ++
    "<dict>\n" ++
    "  <key>CFBundleDevelopmentRegion</key>\n" ++
    "  <string>en</string>\n" ++
    "  <key>CFBundleDisplayName</key>\n" ++
    "  <string>"),
  .slot "app_name",
  .text (
    "</string>\n" ++
    "  <key>CFBundleExecutable</key>\n" ++
    "  <string>Runner</string>\n" ++
    "  <key>CFBundleIdentifier</key>\n" ++
    "  <string>"),
  .slot "bundle_id",
  .text (
    "</string>\n" ++
    "  <key>CFBundleInfoDictionaryVersion</key>\n" ++
    "  <string>6.0</string>\n" ++
    "  <key>CFBundleName</key>\n" ++
    "  <string>"),
  .slot "app_name",
  .text (
    "</string>\n" ++
    "  <key>CFBundlePackageType</key>\n" ++
    "  <string>APPL</string>\n" ++
    "  <key>CFBundleShortVersionString</key>\n" ++
    "  <string>$(MARKETING_VERSION)</string>\n" ++
    "  <key>CFBundleVersion</key>\n" ++
    "  <string>$(CURRENT_PROJECT_VERSION)</string>\n" ++
    "  <key>LSRequiresIPhoneOS</key>\n" ++
    "  <true/>\n" ++
    "  <key>UILaunchStoryboardName</key>\n" ++
    "  <string>LaunchScreen</string>\n" ++
    "  <key>UIMainStoryboardFile</key>\n" ++
    "  <string>Main</string>\n" ++
    "  <key>UISupportedInterfaceOrientations</key>\n" ++
    "  <array>\n" ++
    "    <string>UIInterfaceOrientationPortrait</string>\n" ++
    "    <string>UIInterfaceOrientationLandscapeLeft</string>\n" ++
    "    <string>UIInterfaceOrientationLandscapeRight</string>\n" ++
    "  </array>\n" ++
    "  <key>UIViewControllerBasedStatusBarAppearance</key>\n" ++
    "  <false/>\n" ++
    "  <key>CADisableMinimumFrameDurationOnPhone</key>\n" ++
    "  <true/>\n" ++
    "  <key>UIApplicationSupportsIndirectInputEvents</key>\n" ++
    "  <true/>\n" ++
    "  <key>CFBundleIconName</key>\n" ++
    "  <string>AppIcon</string>\n" ++
    "</dict>\n" ++
    "</plist>\n")]

def androidManifest : Template := [
  .text (
    "<manifest xmlns:android=\"http://schemas.android.com/apk/res/android\"\n" ++
    "    package=\""),
  .slot "bundle_id",
  .text (
    "\">\n" ++
    "    <uses-permission android:name=\"android.permission.INTERNET\"/>\n" ++
    "    <application\n" ++
    "        android:label=\""),
  .slot "app_name",
  .text (
    "\"\n" ++
    "        android:name=\"$\x7bapplicationName\x7d\"\n" ++
    "        android:icon=\"@mipmap/ic_launcher\">\n" ++
    "        <activity\n" ++
    "            android:name=\".MainActivity\"\n" ++
    "            android:exported=\"true\"\n" ++
    "            android:launchMode=\"singleTop\"\n" ++
    "            android:theme=\"@style/LaunchTheme\"\n" ++
    "            android:configChanges=\"orientation|keyboardHidden|keyboard|screenSize|" ++
    "smallestScreenSize|locale|layoutDirection|fontScale|screenLayout|density|uiMode\"\n" ++
    "            android:hardwareAccelerated=\"true\"\n" ++
    "            android:windowSoftInputMode=\"adjustResize\">\n" ++
    "            <intent-filter>\n" ++
    "                <action android:name=\"android.intent.action.MAIN\"/>\n" ++
    "                <category android:name=\"android.intent.category.LAUNCHER\"/>\n" ++
    "            </intent-filter>\n" ++
    "        </activity>\n" ++
    "        <meta-data\n" ++
    "            android:name=\"flutterEmbedding\"\n" ++
    "            android:value=\"2\" />\n" ++
    "    </application>\n" ++
    "</manifest>\n")]

/-- The list of files that are kept out of version control. -/
def ignoreList : Template := [
  .text (
    "# Miscellaneous\n" ++
    "*.class\n" ++
    "*.log\n" ++
    "*.pyc\n" ++
    "*.swp\n" ++
    ".DS_Store\n" ++
    ".atom/\n" ++
    ".buildlog/\n" ++
    ".history\n" ++
    ".svn/\n" ++
    "\n" ++
    "# IntelliJ related\n" ++
    "*.iml\n" ++
    "*.ipr\n" ++
    "*.iws\n" ++
    ".idea/\n" ++
    "\n" ++
    "# Flutter/Dart/Pub related\n" ++
    "**/doc/api/\n" ++
    ".dart_tool/\n" ++
    ".flutter-plugins\n" ++
    ".flutter-plugins-dependencies\n" ++
    ".packages\n" ++
    ".pub-cache/\n" ++
    ".pub/\n" ++
    "/build/\n" ++
    "\n" ++
    "# iOS\n" ++
    "**/ios/Pods/\n" ++
    "**/ios/.symlinks/\n")]

def readme : Template := [
  .text "# ",
  .slot "app_name",
  .text (
    "\n" ++
    "\n" ++
    "Flutter application generated by App Creator.\n" ++
    "\n" ++
    "- Bundle ID: `"),
  .slot "bundle_id",
  .text (
    "`\n" ++
    "- Version: "),
  .slot "version",
  .text " (",
  .slot "build_number",
  .text (
    ")\n" ++
    "- Generated: "),
  .slot "build_time",
  .text (
    "\n" ++
    "\n" ++
    "## Getting Started\n" ++
    "\n" ++
    "```\n" ++
    "flutter pub get\n" ++
    "flutter run\n" ++
    "```\n")]

def standard : List (String × Template) := [
  ("pubspec_yaml", pubspec),
  ("screens_data_dart", embeddedData),
  ("info_plist", infoPlist),
  ("android_manifest", androidManifest),
  ("gitignore", ignoreList),
  ("readme", readme)]

/-- The templates of markup files, whose slots are escaped. -/
def markupNames : List String := ["info_plist", "android_manifest"]

end Maquette.Template

namespace Maquette

/-- Written templates by name, which take precedence over the standard ones. -/
structure TemplateLibrary where
  custom : List (String × String)

namespace TemplateLibrary

def empty : TemplateLibrary := ⟨[]⟩

def fileEnding : String := ".template"

/-- The name of the template in a file: the name of the file without its
ending, unless that would leave nothing. -/
def nameOfFile? (file : String) : Option String :=
  if fileEnding.toList.isSuffixOf file.toList then
    let stem := file.toList.take (file.length - fileEnding.length)
    some (if stem.isEmpty then file else String.ofList stem)
  else none

def ofFiles (files : List (String × String)) : TemplateLibrary where
  custom := files.filterMap fun (file, content) =>
    (nameOfFile? file).map fun name =>
      (name, String.ofList (Text.plainLineEnds content.toList))

/-- The template of a name. An empty template counts as missing, and it hides a
standard one. -/
def find (library : TemplateLibrary) (name : String) : Except TemplateError Template :=
  match library.custom.lookup name with
  | some text => if text = "" then .error (.notFound name) else Template.ofText text
  | none =>
    match Template.standard.lookup name with
    | some template => .ok template
    | none => .error (.notFound name)

def render (library : TemplateLibrary) (name : String) (context : Fields) :
    Except TemplateError String := do
  let template ← library.find name
  template.render (Template.markupNames.contains name) context

end TemplateLibrary

end Maquette
