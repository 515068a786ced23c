import Maquette.Emission
import Maquette.Header
import Maquette.Screen

/-!
# The document of a screen

A screen becomes one Dart document: an app with a theme, and a home page that
has the app bar of the screen and its components on a stack, in painting order.
A screen without components becomes a page that welcomes its reader.

Of the app bar only the first header component matters, and of the components
only what each of them gives on its own, except that the scales of the reference
frame are declared once if any component needs them.
-/

namespace Maquette

open Dart (Expr Argument Statement)

/-- A screen as a document, with its statistics. -/
structure Document where
  code : String
  screenName : String
  lineCount : Nat
  componentCount : Nat
  positionedCount : Nat
  hasAppBar : Bool
  isFallback : Bool

namespace Document

/-- The name that an app shows, given what it was named. -/
def displayName (appName : Json) : String :=
  (Json.firstPresent [appName] (.string defaultAppName)).display

def widgetClass (name : String) (body : List Statement) : Statement :=
  .block ("class " ++ name ++ " extends StatelessWidget") [
    .line "@override",
    .block "Widget build(BuildContext context)" body]

def program (app home : List Statement) : List Statement := [
  .line "import 'package:flutter/material.dart';",
  .gap,
  .block "void main()" [.line "runApp(MyApp());"],
  .gap,
  widgetClass "MyApp" app,
  .gap,
  widgetClass "HomeScreen" home]

def schemeCode (seed : String) : String :=
  "ColorScheme.fromSeed(seedColor: " ++ seed ++ ")"

def appBar (h : Header) : Expr :=
  .call "AppBar" ([
    .named "toolbarHeight" (.code h.height.literal),
    .named "title" (.call "Text" [
      .positional (.text h.title),
      .named "style" (.call "TextStyle" [
        .named "fontSize" (.code h.titleSize.code),
        .named "color" (.code h.foreground.code),
        .named "fontWeight" (.code "FontWeight.w600")])]),
    .named "backgroundColor" (.code h.background.code),
    .named "foregroundColor" (.code h.foreground.code),
    .named "elevation" (.code "1"),
    .named "centerTitle" (.code "false")] ++
    (if h.showsBack then [
      .named "leading" (.call "IconButton" [
        .named "icon" (.code "Icon(Icons.arrow_back)"),
        .named "onPressed" (.code "() => Navigator.of(context).pop()")])]
    else []) ++
    (if h.showsMenu then [
      .named "actions" (.list [
        .call "IconButton" [
          .named "icon" (.code "Icon(Icons.menu)"),
          .named "onPressed" (.code "() \x7b\x7d")]])]
    else []))

/-- The declarations of the scales of the reference frame. -/
def scales : List Statement := [
  .line ("final double " ++ Basis.scaleAcross ++ " = constraints.maxWidth / " ++
    Basis.referenceWidth.fractionLiteral ++ ";"),
  .line ("final double " ++ Basis.scaleDown ++ " = constraints.maxHeight / " ++
    Basis.referenceHeight.fractionLiteral ++ ";")]

/-- The theme of an app and the background of its page. -/
structure Palette where
  seed : Color
  scaffold : Color

/-- The colours of a screen: the seed is the colour of its app bar if it has
one, and a background saved as the same text as that colour gives way to white. -/
def paletteOf (header : Option Header) (background : String) : Palette :=
  match header with
  | none => ⟨.ofText background.toList, .ofText background.toList⟩
  | some h =>
    ⟨h.background, if background = h.backgroundColor then .white else .ofText background.toList⟩

def appBody (appName : Json) (palette : Palette) : List Statement := [
  .result (.call "MaterialApp" [
    .named "title" (.text (displayName appName)),
    .named "theme" (.call "ThemeData" [
      .named "useMaterial3" (.code "true"),
      .named "colorScheme" (.code (schemeCode palette.seed.code)),
      .named "scaffoldBackgroundColor" (.code palette.scaffold.code)]),
    .named "home" (.code "HomeScreen()"),
    .named "debugShowCheckedModeBanner" (.code "false")])]

/-- The statements that build the page of a screen. -/
def homeBody (header : Option Header) (palette : Palette) (rows : List String)
    (usesFrame : Bool) : List Statement := [
  .result (.call "Scaffold" (
    (header.toList.map fun h => .named "appBar" (appBar h)) ++ [
    .named "backgroundColor" (.code palette.scaffold.code),
    .named "body" (.call "SafeArea" [
      .named "child" (.call "LayoutBuilder" [
        .named "builder" (.closure "(context, constraints)" (
          (if usesFrame then scales else []) ++ [
          .result (.call "Stack" [
            .named "fit" (.code "StackFit.expand"),
            .named "clipBehavior" (.code "Clip.none"),
            .named "children" (.rows rows)])]))])])]))]

def stackLevel : Int := 8

def screenCode (appName : Json) (header : Option Header) (background : String)
    (rows : List String) (usesFrame : Bool) : String :=
  let palette := paletteOf header background
  Dart.printBody 0 (program (appBody appName palette) (homeBody header palette rows usesFrame))

/-- The statements that build the app of a screen without components. -/
def welcomeApp (name : String) : List Statement := [
  .result (.call "MaterialApp" [
    .named "title" (.text name),
    .named "theme" (.call "ThemeData" [
      .named "useMaterial3" (.code "true"),
      .named "colorScheme" (.code (schemeCode "Colors.grey"))]),
    .named "home" (.code "HomeScreen()")])]

/-- The statements that build the page of a screen without components. -/
def welcomeHome (name : String) : List Statement := [
  .result (.call "Scaffold" [
    .named "appBar" (.call "AppBar" [
      .named "title" (.apply "Text" (.text name))]),
    .named "body" (.call "Center" [
      .named "child" (.call "Column" [
        .named "mainAxisAlignment" (.code "MainAxisAlignment.center"),
        .named "children" (.list [
          .call "Icon" [
            .positional (.code "Icons.mobile_friendly"),
            .named "size" (.code "64"),
            .named "color" (.code "Theme.of(context).primaryColor")],
          .code "SizedBox(height: 24)",
          .call "Text" [
            .positional (.text ("Welcome to " ++ name ++ "!")),
            .named "style" (.code "Theme.of(context).textTheme.headlineMedium"),
            .named "textAlign" (.code "TextAlign.center")],
          .code "SizedBox(height: 16)",
          .call "Text" [
            .positional (.text "Your app is ready to use"),
            .named "style" (.code "Theme.of(context).textTheme.bodyLarge"),
            .named "textAlign" (.code "TextAlign.center")]])])])])]

/-- The code of a screen without components. -/
def welcomeCode (appName : Json) : String :=
  let name := displayName appName
  Dart.printBody 0 (program (welcomeApp name) (welcomeHome name))

def welcome (appName : Json) (screenName : String) : Document where
  code := welcomeCode appName
  screenName
  lineCount := Text.lineCount (welcomeCode appName).toList
  componentCount := 0
  positionedCount := 0
  hasAppBar := false
  isFallback := true

def ofScreen (appName : Json) (screen : Screen) : Except NumberError Document :=
  if screen.components.isEmpty then .ok (welcome appName screen.name)
  else do
    let arrangement := Arrangement.ofComponents screen.components
    let header ← arrangement.header? appName
    let (rows, run) ← Emission.start.components stackLevel arrangement.placed
    let background :=
      (Json.firstPresent [screen.properties.get "backgroundColor"] (.string "#ffffff")).display
    let code := screenCode appName header background rows run.usesFrame
    return {
      code
      screenName := screen.name
      lineCount := Text.lineCount code.toList
      componentCount := screen.components.length
      positionedCount := rows.length
      hasAppBar := header.isSome
      isFallback := false }

def ofValue (appName value : Json) : Except NumberError Document :=
  ofScreen appName (Screen.ofValue value)

end Document

end Maquette
