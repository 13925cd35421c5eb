import ClientGen.Render.Basic

/-!
# Service files

Each service is an injectable class with, per operation, a method returning the whole
HTTP response and a method returning only its body. Parameters are passed one by one, or
in one object of the service's parameter class when the operation has enough of them.
Query and header values are sent as text, arrays joined by the separator of their
collection format; a body parameter is the request body, and form values go into a form.
-/
namespace ClientGen.Render

/-- The parameter list of an operation's methods. -/
def signature (s : Service) (op : Operation) : String :=
  match op.paramsClass with
  | some cls => "params: " ++ s.serviceClass ++ "." ++ cls
  | none => String.join (op.parameters.map fun p =>
      p.identifier ++ (if p.required then "" else "?") ++ ": " ++ p.type.text ++
        (if p.isLast then "" else ", "))

/-- The arguments one method of an operation passes to the other. -/
def arguments (op : Operation) : String :=
  match op.paramsClass with
  | some _ => "params"
  | none => String.join (op.parameters.map fun p => p.identifier ++ (if p.isLast then "" else ", "))

/-- The separator that joins the items of an array in each collection format. -/
def separators : List (String × String) :=
  [("csv", ","), ("ssv", " "), ("tsv", "\\t"), ("pipes", "|")]

/-- The separator of a collection format, if it has one; only a value that can be a key
can be looked up. -/
def separatorOf (format : Value) : Except Fault (Option String) :=
  if !format.isKey then .error .wrongOperand
  else .ok ((separators.find? fun (name, _) => format.same (.str name)).map (·.2))

/-- A parameter's value as text: an array with a known collection format joined by its
separator, anything else converted. -/
def textValue (p : Parameter) : Except Fault String := do
  let sep ← if p.isArray then separatorOf p.collectionFormat else pure none
  pure (match sep with
    | some s => p.access ++ ".join('" ++ s ++ "')"
    | none => p.access ++ ".toString()")

/-- The statement that puts one parameter into the request. -/
def parameterLine (p : Parameter) : Except Fault String := do
  let name := p.name.display
  if p.location.same (.str "query") then
    let formats := separators.map (·.1)
    if p.isArray && !(formats.any fun f => p.collectionFormat.same (.str f)) then
      pure ("    (" ++ p.access ++ " || []).forEach(val => \x7bif (val != null) " ++
        "__params = __params.append('" ++ name ++ "', val.toString())\x7d);\n")
    else
      pure ("    if (" ++ p.access ++ " != null) __params = __params.set('" ++ name ++ "', " ++
        (← textValue p) ++ ");\n")
  else if p.location.same (.str "header") then
    pure ("    if (" ++ p.access ++ " != null) __headers = __headers.set('" ++ name ++ "', " ++
      (← textValue p) ++ ");\n")
  else if p.location.same (.str "body") then
    pure ("    __body = " ++ p.access ++ ";\n")
  else if p.location.same (.str "formData") then
    let sent := if p.toJson then "JSON.stringify(" ++ p.access ++ ")"
      else p.access ++ " as string | Blob"
    pure ("    if (" ++ p.access ++ " != null) \x7b __formData.append('" ++ name ++ "', " ++
      sent ++ ");\x7d\n")
  else pure ""

/-- The statement that turns the response into the typed result. -/
def resultLine (op : Operation) : String :=
  let typed := "__StrictHttpResponse<" ++ op.resultType.text ++ ">;\n"
  let response := "(_r as HttpResponse<any>)"
  match op.resultKind with
  | .void => "        return " ++ response ++ ".clone(\x7b body: null \x7d) as " ++ typed
  | .number => "        return " ++ response ++ ".clone(\x7b body: parseFloat(" ++ response ++
      ".body as string) \x7d) as " ++ typed
  | .boolean => "        return " ++ response ++ ".clone(\x7b body: " ++ response ++
      ".body === 'true' \x7d) as " ++ typed
  | _ => "        return _r as " ++ typed

/-- The two methods of an operation. -/
def operationMethods (ctx : Context) (s : Service) (op : Operation) : Except Fault String := do
  let doc ← docBlock (.str op.description) 1
  let params ← op.parameters.mapM parameterLine
  let note := if op.returnsHeaders then
      "The response headers are only available from `" ++ op.name ++ "Response`."
    else ""
  let summary := "\n\n".intercalate ([op.description, note].filter (· ≠ ""))
  let bodyDoc ← docBlock (.str summary) 1
  let sig := signature s op
  let result := op.resultType.text
  pure ("\n" ++ doc ++ op.name ++ "Response(" ++ sig ++ "): __Observable<__StrictHttpResponse<" ++
    result ++ ">> \x7b\n" ++
    lines ["    let __params = this.newParams();", "    let __headers = new HttpHeaders();",
      "    let __body: any = null;"] ++
    (if op.isMultipart then
      lines ["    let __formData = new FormData();", "    __body = __formData;"]
    else "") ++
    String.join params ++
    lines ["    let req = new HttpRequest<any>(", "      '" ++ op.method ++ "',",
      "      this.rootUrl + `" ++ op.pathExpression ++ "`,", "      __body,", "      \x7b",
      "        headers: __headers,", "        params: __params,",
      "        responseType: '" ++ op.resultKind.responseType ++ "'", "      \x7d);", "",
      "    return this.http.request<any>(req).pipe(",
      "      __filter(_r => _r instanceof HttpResponse),", "      __map((_r) => \x7b"] ++
    resultLine op ++
    "      \x7d)" ++
    (if ctx.config.errorHandler then ",\n      __catchError(error => this.handleError(error))"
      else "") ++ "\n" ++
    lines ["    );", "  \x7d"] ++
    bodyDoc ++ op.name ++ "(" ++ sig ++ "): __Observable<" ++ result ++ "> \x7b\n" ++
    lines ["    return this." ++ op.name ++ "Response(" ++ arguments op ++ ").pipe(",
      "      __map(_r => _r.body as " ++ result ++ ")", "    );", "  \x7d"])

/-- The parameter class of an operation that takes its parameters in one object. -/
def parameterClass (op : Operation) (cls : String) : Except Fault String := do
  let members ← op.parameters.mapM fun p => do
    let doc ← docBlock p.description 2
    pure (doc ++ p.identifier ++ (if p.required then "" else "?") ++ ": " ++ p.type.text ++ ";\n")
  pure (lines ["", "  /**", "   * Parameters for " ++ op.name, "   */",
      "  export interface " ++ cls ++ " \x7b"] ++
    String.join members ++ lines ["  \x7d"])

/-- The name an operation's path constant starts with: the operation's name with its first
character in upper case. -/
def pathConstant (op : Operation) : String :=
  Text.upper (Text.takeChars op.name 1) ++ Text.dropChars op.name 1

/-- The file of a service, importing the given models. -/
def serviceFile (ctx : Context) (s : Service) (imports : List Model) : Except Fault String := do
  let doc ← docBlock s.description 0
  let methods ← s.operations.mapM (operationMethods ctx s)
  let classes ← s.operations.mapM fun op =>
    match op.paramsClass with
    | some cls => parameterClass op cls
    | none => pure ""
  pure (ctx.banner ++
    lines ["import \x7b Injectable \x7d from '@angular/core';",
      "import \x7b HttpClient, HttpRequest, HttpResponse, HttpHeaders \x7d from '@angular/common/http';",
      "import \x7b BaseService as __BaseService \x7d from '../base-service';",
      "import \x7b " ++ ctx.configurationClass ++ " as __Configuration \x7d from '../" ++
        ctx.configurationFile ++ "';",
      "import \x7b StrictHttpResponse as __StrictHttpResponse \x7d from '../strict-http-response';",
      "import \x7b Observable as __Observable \x7d from 'rxjs';",
      "import \x7b map as __map, filter as __filter" ++
        (if ctx.config.errorHandler then ", catchError as __catchError" else "") ++
        " \x7d from 'rxjs/operators';", ""] ++
    String.join (imports.map fun d => importLine d.className ("../models/" ++ d.fileName)) ++
    doc ++
    lines ["@Injectable(\x7b", "  providedIn: 'root',", "\x7d)",
      "class " ++ s.serviceClass ++ " extends __BaseService \x7b"] ++
    String.join (s.operations.map fun op =>
      "  static readonly " ++ pathConstant op ++ "Path = '" ++ op.path.display ++ "';\n") ++
    lines ["", "  constructor(", "    config: __Configuration,", "    http: HttpClient",
      "  ) \x7b", "    super(config, http);", "  \x7d"] ++
    String.join methods ++
    lines ["\x7d", "", "module " ++ s.serviceClass ++ " \x7b"] ++
    String.join classes ++
    lines ["\x7d", "", "export \x7b " ++ s.serviceClass ++ " \x7d"])

/-- The index re-exporting every service. -/
def serviceIndex (ctx : Context) (services : List Service) : String :=
  ctx.header ++ "\n" ++ String.join (services.map fun s =>
    "export \x7b " ++ s.serviceClass ++ " \x7d from './services/" ++ s.serviceFile ++ "';\n")

end ClientGen.Render
