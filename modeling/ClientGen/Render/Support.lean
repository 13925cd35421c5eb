import ClientGen.Render.Basic

/-!
# Support files

The files every client has besides its models and services: the module providing the
services and the configuration, the configuration class holding the root URL, the response
type whose body is never null, and the base class of the services.
-/
namespace ClientGen.Render

/-- The module that provides every service and the configuration. -/
def moduleFile (ctx : Context) (services : List Service) : String :=
  let cc := ctx.configurationClass
  let ci := ctx.configurationInterface
  let mc := ctx.moduleClass
  ctx.banner ++
  lines ["import \x7b NgModule, ModuleWithProviders \x7d from '@angular/core';",
    "import \x7b HttpClientModule \x7d from '@angular/common/http';",
    "import \x7b " ++ cc ++ ", " ++ ci ++ " \x7d from './" ++ ctx.configurationFile ++ "';", ""] ++
  String.join (services.map fun s => importLine s.serviceClass ("./services/" ++ s.serviceFile)) ++
  lines ["", "/**", " * Provider for all " ++ ctx.config.apiName ++ " services, plus " ++ cc, " */",
    "@NgModule(\x7b", "  imports: [", "    HttpClientModule", "  ],", "  exports: [",
    "    HttpClientModule", "  ],", "  declarations: [],", "  providers: [",
    "    " ++ cc ++ (if services.isEmpty then "" else ",")] ++
  String.join (services.map fun s =>
    "    " ++ s.serviceClass ++ (if s.isLast then "" else ",") ++ "\n") ++
  lines ["  ],", "\x7d)", "export class " ++ mc ++ " \x7b",
    "  static forRoot(customParams: " ++ ci ++ "): ModuleWithProviders<" ++ mc ++ "> \x7b",
    "    return \x7b", "      ngModule: " ++ mc ++ ",", "      providers: [", "        \x7b",
    "          provide: " ++ cc ++ ",", "          useValue: \x7brootUrl: customParams.rootUrl\x7d",
    "        \x7d", "      ]", "    \x7d", "  \x7d", "\x7d"]

/-- The configuration class, holding the root URL of the operations. -/
def configurationFile (ctx : Context) : String :=
  ctx.banner ++
  lines ["import \x7b Injectable \x7d from '@angular/core';", "", "/**",
    " * Global configuration for " ++ ctx.config.apiName ++ " services", " */",
    "@Injectable(\x7b", "  providedIn: 'root',", "\x7d)",
    "export class " ++ ctx.configurationClass ++ " \x7b",
    "  rootUrl: string = '" ++ ctx.rootUrl ++ "';", "\x7d", "",
    "export interface " ++ ctx.configurationInterface ++ " \x7b", "  rootUrl?: string;", "\x7d"]

/-- The response type whose body is not widened with null. -/
def strictResponseFile (ctx : Context) : String :=
  ctx.banner ++
  lines ["import \x7b HttpResponse \x7d from '@angular/common/http';", "", "/**",
    " * Constrains the http to not expand the response type with `| null`", " */",
    "export type StrictHttpResponse<T> = HttpResponse<T> & \x7b", "  readonly body: T;", "\x7d"]

/-- The base class of the services: the parameter codec, the root URL and, when errors are
handled, the error handler. -/
def baseServiceFile (ctx : Context) : String :=
  let handler := ctx.config.errorHandler
  let cc := ctx.configurationClass
  ctx.banner ++
  "import \x7b HttpClient, HttpParameterCodec, HttpParams" ++
    (if handler then ", HttpErrorResponse" else "") ++ " \x7d from '@angular/common/http';\n" ++
  (if handler then lines ["import \x7b Observable, throwError \x7d from 'rxjs';"] else "") ++
  lines ["import \x7b " ++ cc ++ " \x7d from './" ++ ctx.configurationFile ++ "';", "", "/**",
    " * Custom parameter codec to correctly handle the plus sign in parameter",
    " * values. See https://github.com/angular/angular/issues/18261", " */",
    "class ParameterCodec implements HttpParameterCodec \x7b",
    "  encodeKey(key: string): string \x7b", "    return encodeURIComponent(key);", "  \x7d", "",
    "  encodeValue(value: string): string \x7b", "    return encodeURIComponent(value);", "  \x7d",
    "", "  decodeKey(key: string): string \x7b", "    return decodeURIComponent(key);", "  \x7d",
    "", "  decodeValue(value: string): string \x7b", "    return decodeURIComponent(value);",
    "  \x7d", "\x7d", "const PARAMETER_CODEC = new ParameterCodec();", "", "/**",
    " * Base class for " ++ ctx.config.apiName ++ " services", " */",
    "export class BaseService \x7b", "  constructor(", "    protected config: " ++ cc ++ ",",
    "    protected http: HttpClient", "  ) \x7b", "  \x7d", "",
    "  private _rootUrl: string = '';", "", "  /**",
    "   * Returns the root url for API operations. If not set directly in this",
    "   * service, will fallback to " ++ cc ++ ".rootUrl.", "   */",
    "  get rootUrl(): string \x7b", "    return this._rootUrl || this.config.rootUrl;", "  \x7d",
    "", "  /**", "   * Sets the root URL for API operations in this service.", "   */",
    "  set rootUrl(rootUrl: string) \x7b", "    this._rootUrl = rootUrl;", "  \x7d", "", "  /**",
    "   * Creates a new `HttpParams` with the correct codec", "   */",
    "  protected newParams(): HttpParams \x7b", "    return new HttpParams(\x7b",
    "      encoder: PARAMETER_CODEC", "    \x7d);", "  \x7d"] ++
  (if handler then
    lines ["", "  /**", "   * Handles an error response. Override to customize the error reporting",
      "   * of all the operations of a service.", "   */",
      "  protected handleError(error: HttpErrorResponse): Observable<never> \x7b",
      "    return throwError(error);", "  \x7d"]
  else "") ++
  lines ["\x7d"]

end ClientGen.Render
