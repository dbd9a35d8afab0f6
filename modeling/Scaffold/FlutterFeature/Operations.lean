import Scaffold.FlutterFeature.Shapes
import Scaffold.Pagination
import Scaffold.Text.Decimal

/-!
# The behaviour of a Flutter feature

The repository that calls the HTTP interface, the providers over it and the list screen.
-/

set_option autoImplicit false

namespace Scaffold.FlutterFeature

open Code Text

/-! ## File names -/

/-- The names of the files, without their extensions. -/
def repositoryStem (e : Entity) : String := e.module ++ "_repository"
def providerStem (e : Entity) : String := e.module ++ "_provider"
def screenStem (e : Entity) : String := e.module ++ "_list_screen"

/-! ## The repository -/

/-- The identifier inside a string. -/
def idPlaceholder : String := "$id"

/-- Sends a request; the arguments follow the path. -/
def request (verb path : String) (args : String := "") : String :=
  "await _dio." ++ verb ++ "('" ++ path ++ "'" ++ args ++ ");"

/-- Sends a request and reads one entity from its answer. -/
def requestOne (entity verb path : String) (args : String := "") : Program :=
  [.line ("final response = " ++ request verb path args),
   .line ("return " ++ entity ++ ".fromJson(response.data);")]

/-- Reads one page of the collection. -/
def getAllMethod (p : Pagination) (b : Blueprint) : Op :=
  asyncMethod ("List<" ++ b.entity.pascal ++ ">") "getAll"
    (braced ("int page = " ++ intDigits p.defaultPage.toInt ++ ", int perPage = " ++
      intDigits p.defaultPerPage.toInt ++ ", String? search")) [
    .line "final response = await _dio.get(",
    .indented [
      .line ("'" ++ b.entity.collectionPath ++ "',"),
      .braces "queryParameters: " [
        .line "'page': page,",
        .line "'per_page': perPage,",
        .line "if (search != null) 'search': search,"] ","],
    .line ");",
    .line "final items = response.data['items'] as List;",
    .line ("return items.map((e) => " ++ b.entity.pascal ++ ".fromJson(e)).toList();")]

def repositoryFile (p : Pagination) (b : Blueprint) : SourceFile where
  imports := ["package:dio/dio.dart", "../models/" ++ modelStem b.entity ++ ".dart"]
  decls :=
    let entity := b.entity.pascal
    let collection := b.entity.collectionPath
    let item := b.entity.itemPath idPlaceholder
    [classDecl (entity ++ "Repository") (Program.separated [
      [.line "final Dio _dio;"],
      [.line (entity ++ "Repository(this._dio);")],
      [getAllMethod p b],
      [asyncMethod entity "getById" "String id" (requestOne entity "get" item)],
      [asyncMethod entity "create" (createRequest entity ++ " request")
        (requestOne entity "post" collection ", data: request.toJson()")],
      [asyncMethod entity "update" ("String id, " ++ updateRequest entity ++ " request")
        (requestOne entity "put" item ", data: request.toJson()")],
      [asyncMethod "void" "delete" "String id" [.line (request "delete" item)]]])]

def repository (p : Pagination) (b : Blueprint) : Artifact where
  path := featureDir b.entity ++ "/data/repositories/" ++ repositoryStem b.entity ++ ".dart"
  kind := .repository
  content := (repositoryFile p b).render

/-! ## The providers -/

/-- A provider that computes its value from `params`. -/
def provider (name type params : String) (body : Program) : Program :=
  [.braces ("final " ++ name ++ " = " ++ type ++ "((" ++ params) body ");"]

/-- Asks the repository for a value. -/
def fromRepository (e : Entity) (query : String) : Program :=
  [.line ("final repository = ref.watch(" ++ e.camel ++ "RepositoryProvider);"),
   .line ("return repository." ++ query ++ ";")]

def providerFile (b : Blueprint) : SourceFile where
  imports :=
    ["package:flutter_riverpod/flutter_riverpod.dart",
     "../data/models/" ++ modelStem b.entity ++ ".dart",
     "../data/repositories/" ++ repositoryStem b.entity ++ ".dart"]
  decls :=
    let entity := b.entity.pascal
    let camel := b.entity.camel
    [provider (camel ++ "RepositoryProvider") ("Provider<" ++ entity ++ "Repository>") "ref) "
       [.line "throw UnimplementedError('Provide Dio instance');"],
     provider (camel ++ "ListProvider") ("FutureProvider<List<" ++ entity ++ ">>") "ref) async "
       (fromRepository b.entity "getAll()"),
     provider (camel ++ "Provider") ("FutureProvider.family<" ++ entity ++ ", String>")
       "ref, id) async " (fromRepository b.entity "getById(id)")]

def providers (b : Blueprint) : Artifact where
  path := featureDir b.entity ++ "/presentation/providers/" ++ providerStem b.entity ++ ".dart"
  kind := .state
  content := (providerFile b).render

/-! ## The screen -/

/-- The list itself, one tile for each item. -/
def listView : Op :=
  call "data: (items) => ListView.builder" [
    .line "itemCount: items.length,",
    .braces "itemBuilder: (context, index) " [
      .line "final item = items[index];",
      call "return ListTile" [
        .line "title: Text(item.id),",
        .line "subtitle: Text(item.createdAt.toString()),"] ");"] ","] "),"

/-- The page around the list. -/
def page (entity : String) : Op :=
  call "return Scaffold" [
    .line ("appBar: AppBar(title: const Text('" ++ entity ++ " List')),"),
    call "body: itemsAsync.when" [
      listView,
      .line "loading: () => const Center(child: CircularProgressIndicator()),",
      .line "error: (error, stack) => Center(child: Text('Error: $error')),"] "),",
    call "floatingActionButton: FloatingActionButton" [
      .line ("onPressed: () " ++ braced "" ++ ","),
      .line "child: const Icon(Icons.add),"] "),"] ");"

def screenFile (b : Blueprint) : SourceFile where
  imports :=
    ["package:flutter/material.dart", "package:flutter_riverpod/flutter_riverpod.dart",
     "../providers/" ++ providerStem b.entity ++ ".dart"]
  decls :=
    let screen := b.entity.pascal ++ "ListScreen"
    [classDecl (screen ++ " extends ConsumerWidget") [
      .line ("const " ++ screen ++ "(" ++ braced "super.key" ++ ");"),
      .blank,
      .line "@override",
      .braces "Widget build(BuildContext context, WidgetRef ref) " [
        .line ("final itemsAsync = ref.watch(" ++ b.entity.camel ++ "ListProvider);"),
        .blank,
        page b.entity.pascal]]]

def screen (b : Blueprint) : Artifact where
  path := featureDir b.entity ++ "/presentation/screens/" ++ screenStem b.entity ++ ".dart"
  kind := .view
  content := (screenFile b).render

end Scaffold.FlutterFeature
