import DeviceSetup.Text.Basic

/-!
# Content types of files

A file has the content type that goes with the ending of its name, and some types of text
are given as UTF-8.
-/

namespace DeviceSetup.Http.FileType

/-- Content types with the endings that stand for them. -/
def endings : List (String × List String) :=
  [("text/html", ["htm", "html", "hxt", "shtml"]),
   ("text/css", ["css"]),
   ("text/csv", ["csv"]),
   ("text/plain", ["asm", "bas", "c", "cc", "cd", "cfg", "cmd", "cnf", "conf", "cpp", "cs",
     "csdproj", "csproj", "cxx", "dbproj", "def", "dsw", "h", "hpp", "hxx", "i", "idl", "in", "inc",
     "ini", "inl", "ipproj", "jsxbin", "list", "log", "lst", "mak", "map", "mk", "odh", "odl",
     "pkgdef", "pkgundef", "py", "rc", "rc2", "rct", "reg", "rgs", "s", "scr", "sln", "sol", "sor",
     "srf", "text", "tlh", "tli", "txt", "user", "vb", "vbdproj", "vbproj", "vcs", "vddproj", "vdp",
     "vdproj", "vspscc", "vsscc", "vssscc", "xdr", "xoml"]),
   ("text/javascript", ["js", "jsx"]),
   ("application/javascript", ["mjs"]),
   ("application/json", ["json"]),
   ("application/ld+json", ["jsonld"]),
   ("application/manifest+json", ["webmanifest"]),
   ("application/wasm", ["wasm"]),
   ("text/xml", ["addin", "disco", "dtd", "dtsconfig", "mno", "ssisdeploymentmanifest", "vml",
     "vsct", "vsixlangpack", "vsixmanifest", "vssettings", "vstemplate", "wsdl", "xml", "xrm-ms",
     "xsd", "xsf", "xsl", "xslt"]),
   ("application/xml", ["asa", "asax", "ascx", "ashx", "asmx", "aspx", "config", "coverage",
     "datasource", "dgml", "filters", "generictest", "hxa", "hxc", "hxe", "hxf", "hxk", "hxv",
     "loadtest", "master", "mtx", "orderedtest", "psess", "rdlc", "resx", "ruleset", "settings",
     "sitemap", "skin", "snippet", "svc", "testrunconfig", "testsettings", "trx", "vcproj",
     "vcxproj", "vscontent", "vsmdi", "webtest", "wiq", "xmta", "xsc", "xss"]),
   ("application/xhtml+xml", ["xht", "xhtml"]),
   ("application/atom+xml", ["atom"]),
   ("application/atomcat+xml", ["atomcat"]),
   ("application/atomsvc+xml", ["atomsvc"]),
   ("application/rss+xml", ["rss"]),
   ("application/mathml+xml", ["mathml"]),
   ("application/xspf+xml", ["xspf"]),
   ("application/gpx+xml", ["gpx"]),
   ("application/rdf+xml", ["rdf"]),
   ("application/xaml+xml", ["xaml"]),
   ("text/markdown", ["markdown", "md"]),
   ("text/x-yaml", ["yaml", "yml"]),
   ("text/x-toml", ["toml"]),
   ("text/calendar", ["ics", "ifb"]),
   ("text/tab-separated-values", ["tsv"]),
   ("text/vtt", ["vtt"]),
   ("text/cache-manifest", ["appcache"]),
   ("text/sgml", ["sgm", "sgml"]),
   ("text/n3", ["n3"]),
   ("text/turtle", ["ttl"]),
   ("text/uri-list", ["uri", "uris", "urls"]),
   ("text/vcard", ["vcard"]),
   ("text/x-vcard", ["vcf"]),
   ("text/x-nfo", ["nfo"]),
   ("text/x-opml", ["opml"]),
   ("text/x-sfv", ["sfv"]),
   ("text/x-pascal", ["p", "pas"]),
   ("text/x-fortran", ["f", "f77", "f90", "for"]),
   ("text/x-uuencode", ["uu"]),
   ("text/richtext", ["rtx"]),
   ("text/vbscript", ["vbs"]),
   ("text/x-component", ["htc"]),
   ("text/webviewhtml", ["htt"]),
   ("text/scriptlet", ["sct", "wsc"]),
   ("text/h323", ["323"]),
   ("text/dlm", ["dlm"]),
   ("text/iuls", ["uls"]),
   ("text/x-setext", ["etx"]),
   ("text/x-hdml", ["hdml"]),
   ("text/vnd.wap.wml", ["wml"]),
   ("text/vnd.wap.wmlscript", ["wmls"]),
   ("image/avif", ["avif"]),
   ("image/apng", ["apng"]),
   ("image/bmp", ["bmp", "dib"]),
   ("image/gif", ["gif"]),
   ("image/jpeg", ["jpe", "jpeg", "jpg"]),
   ("image/pjpeg", ["jfif"]),
   ("image/png", ["png", "pnz"]),
   ("image/svg+xml", ["svg", "svgz"]),
   ("image/tiff", ["tif", "tiff"]),
   ("image/webp", ["webp"]),
   ("image/x-icon", ["ico"]),
   ("image/heic", ["heic"]),
   ("image/heif", ["heif"]),
   ("image/jxl", ["jxl"]),
   ("image/jp2", ["jp2"]),
   ("image/pict", ["pct", "pic", "pict"]),
   ("image/cgm", ["cgm"]),
   ("image/cis-cod", ["cod"]),
   ("image/ief", ["ief"]),
   ("image/ktx", ["ktx"]),
   ("image/vnd.djvu", ["djv", "djvu"]),
   ("image/vnd.dwg", ["dwg"]),
   ("image/vnd.dxf", ["dxf"]),
   ("image/vnd.ms-photo", ["wdp"]),
   ("image/vnd.wap.wbmp", ["wbmp"]),
   ("image/vnd.rn-realflash", ["rf"]),
   ("image/x-cmu-raster", ["ras"]),
   ("image/x-cmx", ["cmx"]),
   ("image/x-jg", ["art"]),
   ("image/x-macpaint", ["mac", "pnt", "pntg"]),
   ("image/x-portable-anymap", ["pnm"]),
   ("image/x-portable-bitmap", ["pbm"]),
   ("image/x-portable-graymap", ["pgm"]),
   ("image/x-portable-pixmap", ["ppm"]),
   ("image/x-quicktime", ["qti", "qtif"]),
   ("image/x-rgb", ["rgb"]),
   ("image/x-tga", ["tga"]),
   ("image/x-xbitmap", ["xbm"]),
   ("image/x-xpixmap", ["xpm"]),
   ("image/x-xwindowdump", ["xwd"]),
   ("font/ttf", ["ttf"]),
   ("font/woff2", ["woff2"]),
   ("application/font-sfnt", ["otf"]),
   ("application/font-woff", ["woff"]),
   ("application/vnd.ms-fontobject", ["eot"]),
   ("audio/aac", ["aac", "adts"]),
   ("audio/ac3", ["ac3"]),
   ("audio/aiff", ["aif", "aifc", "aiff", "cdda"]),
   ("audio/annodex", ["axa"]),
   ("audio/audible", ["aa"]),
   ("audio/basic", ["au", "snd"]),
   ("audio/flac", ["flac"]),
   ("audio/m4a", ["m4a"]),
   ("audio/m4b", ["m4b"]),
   ("audio/m4p", ["m4p"]),
   ("audio/mid", ["mid", "midi", "rmi"]),
   ("audio/mp4", ["mp4a"]),
   ("audio/mpeg", ["m2a", "m3a", "mp2a", "mp3", "mpga"]),
   ("audio/ogg", ["oga", "ogg", "opus", "spx"]),
   ("audio/scpls", ["pls"]),
   ("audio/vnd.audible.aax", ["aax"]),
   ("audio/vnd.dlna.adts", ["adt"]),
   ("audio/wav", ["wav", "wave"]),
   ("audio/webm", ["weba"]),
   ("audio/x-caf", ["caf"]),
   ("audio/x-gsm", ["gsm"]),
   ("audio/x-m4r", ["m4r"]),
   ("audio/x-matroska", ["mka"]),
   ("audio/x-mpegurl", ["m3u", "m3u8"]),
   ("audio/x-ms-wax", ["wax"]),
   ("audio/x-ms-wma", ["wma"]),
   ("audio/x-pn-realaudio", ["ra", "ram"]),
   ("audio/x-pn-realaudio-plugin", ["rpm"]),
   ("audio/x-sd2", ["sd2"]),
   ("audio/x-smd", ["smd", "smx", "smz"]),
   ("video/3gpp", ["3gp", "3gpp"]),
   ("video/3gpp2", ["3g2", "3gp2"]),
   ("video/annodex", ["axv"]),
   ("video/divx", ["divx"]),
   ("video/mp4", ["mp4", "mp4v"]),
   ("video/mpeg", ["m1v", "m2v", "mod", "mp2", "mp2v", "mpa", "mpe", "mpeg", "mpg", "mpv2", "vbk"]),
   ("video/ogg", ["ogv"]),
   ("video/quicktime", ["mov", "mqv", "qt"]),
   ("video/vnd.dlna.mpeg-tts", ["m2t", "m2ts", "mts", "ts", "tts"]),
   ("video/webm", ["webm"]),
   ("video/x-dv", ["dif", "dv"]),
   ("video/x-f4v", ["f4v"]),
   ("video/x-fli", ["fli"]),
   ("video/x-flv", ["flv"]),
   ("video/x-ivf", ["ivf"]),
   ("video/x-la-asf", ["lsf", "lsx"]),
   ("video/x-m4v", ["m4v"]),
   ("video/x-matroska", ["mk3d", "mks", "mkv"]),
   ("video/x-mng", ["mng"]),
   ("video/x-ms-asf", ["asf", "asr", "asx", "nsc"]),
   ("video/x-ms-vob", ["vob"]),
   ("video/x-ms-wm", ["wm"]),
   ("video/x-ms-wmp", ["wmp"]),
   ("video/x-ms-wmv", ["wmv"]),
   ("video/x-ms-wmx", ["wmx"]),
   ("video/x-ms-wvx", ["wvx"]),
   ("video/x-msvideo", ["avi"]),
   ("video/x-sgi-movie", ["movie"]),
   ("model/gltf+json", ["gltf"]),
   ("model/gltf-binary", ["glb"]),
   ("model/iges", ["iges", "igs"]),
   ("model/mesh", ["mesh", "msh", "silo"]),
   ("message/rfc822", ["eml", "mht", "mhtml", "mime", "nws"]),
   ("application/annodex", ["anx"]),
   ("application/epub+zip", ["epub"]),
   ("application/envoy", ["evy"]),
   ("application/futuresplash", ["spl"]),
   ("application/gzip", ["gz"]),
   ("application/hta", ["hta"]),
   ("application/java-archive", ["ear", "jar", "war"]),
   ("application/mac-binhex40", ["hqx"]),
   ("application/mbox", ["mbox"]),
   ("application/msaccess", ["accdb", "accde", "accdt", "ade", "adp", "mda", "mde"]),
   ("application/msword", ["doc", "dot", "wbk", "wiz"]),
   ("application/oda", ["oda"]),
   ("application/ogg", ["ogx"]),
   ("application/olescript", ["axs"]),
   ("application/onenote", ["one", "onea", "onepkg", "onetmp", "onetoc", "onetoc2"]),
   ("application/pdf", ["pdf"]),
   ("application/pgp-signature", ["asc", "sig"]),
   ("application/pkcs10", ["p10"]),
   ("application/pkcs7-mime", ["p7c", "p7m"]),
   ("application/pkcs7-signature", ["p7s"]),
   ("application/pkix-crl", ["crl"]),
   ("application/postscript", ["ai", "eps", "ps"]),
   ("application/powershell", ["psc1"]),
   ("application/rtf", ["rtf"]),
   ("application/sdp", ["sdp"]),
   ("application/step", ["step", "stp"]),
   ("application/winhlp", ["hlp"]),
   ("application/zip", ["zip"]),
   ("application/vnd.adobe.air-application-installer-package+zip", ["air"]),
   ("application/vnd.android.package-archive", ["apk"]),
   ("application/vnd.fdf", ["fdf"]),
   ("application/vnd.google-earth.kml+xml", ["kml"]),
   ("application/vnd.google-earth.kmz", ["kmz"]),
   ("application/vnd.ms-excel", ["slk", "xla", "xlc", "xld", "xlk", "xll", "xlm", "xls", "xlt",
     "xlw"]),
   ("application/vnd.ms-excel.addin.macroenabled.12", ["xlam"]),
   ("application/vnd.ms-excel.sheet.binary.macroenabled.12", ["xlsb"]),
   ("application/vnd.ms-excel.sheet.macroenabled.12", ["xlsm"]),
   ("application/vnd.ms-excel.template.macroenabled.12", ["xltm"]),
   ("application/vnd.ms-office.calx", ["calx"]),
   ("application/vnd.ms-officetheme", ["thmx"]),
   ("application/vnd.ms-outlook", ["msg", "pst"]),
   ("application/vnd.ms-pki.certstore", ["sst"]),
   ("application/vnd.ms-pki.pko", ["pko"]),
   ("application/vnd.ms-pki.seccat", ["cat"]),
   ("application/vnd.ms-pki.stl", ["stl"]),
   ("application/vnd.ms-powerpoint", ["pot", "ppa", "pps", "ppt", "pwz"]),
   ("application/vnd.ms-powerpoint.addin.macroenabled.12", ["ppam"]),
   ("application/vnd.ms-powerpoint.presentation.macroenabled.12", ["pptm"]),
   ("application/vnd.ms-powerpoint.slide.macroenabled.12", ["sldm"]),
   ("application/vnd.ms-powerpoint.slideshow.macroenabled.12", ["ppsm"]),
   ("application/vnd.ms-powerpoint.template.macroenabled.12", ["potm"]),
   ("application/vnd.ms-project", ["mpp"]),
   ("application/vnd.ms-visio.viewer", ["vdx"]),
   ("application/vnd.ms-word.document.macroenabled.12", ["docm"]),
   ("application/vnd.ms-word.template.macroenabled.12", ["dotm"]),
   ("application/vnd.ms-works", ["wcm", "wdb", "wks", "wps"]),
   ("application/vnd.ms-wpl", ["wpl"]),
   ("application/vnd.ms-xpsdocument", ["xps"]),
   ("application/vnd.oasis.opendocument.chart", ["odc"]),
   ("application/vnd.oasis.opendocument.database", ["odb"]),
   ("application/vnd.oasis.opendocument.formula", ["odf"]),
   ("application/vnd.oasis.opendocument.graphics", ["odg"]),
   ("application/vnd.oasis.opendocument.graphics-template", ["otg"]),
   ("application/vnd.oasis.opendocument.image", ["odi"]),
   ("application/vnd.oasis.opendocument.presentation", ["odp"]),
   ("application/vnd.oasis.opendocument.presentation-template", ["otp"]),
   ("application/vnd.oasis.opendocument.spreadsheet", ["ods"]),
   ("application/vnd.oasis.opendocument.spreadsheet-template", ["ots"]),
   ("application/vnd.oasis.opendocument.text", ["odt"]),
   ("application/vnd.oasis.opendocument.text-master", ["odm"]),
   ("application/vnd.oasis.opendocument.text-template", ["ott"]),
   ("application/vnd.oasis.opendocument.text-web", ["oth"]),
   ("application/vnd.openofficeorg.extension", ["oxt"]),
   ("application/vnd.openxmlformats-officedocument.presentationml.presentation", ["pptx"]),
   ("application/vnd.openxmlformats-officedocument.presentationml.slide", ["sldx"]),
   ("application/vnd.openxmlformats-officedocument.presentationml.slideshow", ["ppsx"]),
   ("application/vnd.openxmlformats-officedocument.presentationml.template", ["potx"]),
   ("application/vnd.openxmlformats-officedocument.spreadsheetml.sheet", ["xlsx"]),
   ("application/vnd.openxmlformats-officedocument.spreadsheetml.template", ["xltx"]),
   ("application/vnd.openxmlformats-officedocument.wordprocessingml.document", ["docx"]),
   ("application/vnd.openxmlformats-officedocument.wordprocessingml.template", ["dotx"]),
   ("application/vnd.rn-realmedia", ["rm"]),
   ("application/vnd.tcpdump.pcap", ["cap", "dmp", "pcap"]),
   ("application/vnd.visio", ["vsd", "vss", "vst", "vsw", "vsx", "vtx"]),
   ("application/x-7z-compressed", ["7z"]),
   ("application/x-bcpio", ["bcpio"]),
   ("application/x-bittorrent", ["torrent"]),
   ("application/x-bzip", ["bz"]),
   ("application/x-bzip2", ["boz", "bz2"]),
   ("application/x-cdf", ["cdf"]),
   ("application/x-compress", ["z"]),
   ("application/x-compressed", ["tgz"]),
   ("application/x-cpio", ["cpio"]),
   ("application/x-csh", ["csh"]),
   ("application/x-director", ["cct", "cst", "cxt", "dcr", "dir", "dxr", "fgd", "swa", "w3d"]),
   ("application/x-dvi", ["dvi"]),
   ("application/x-gtar", ["gtar"]),
   ("application/x-hdf", ["hdf"]),
   ("application/x-internet-signup", ["ins", "isp"]),
   ("application/x-java-applet", ["class"]),
   ("application/x-java-jnlp-file", ["jnlp"]),
   ("application/x-latex", ["latex"]),
   ("application/x-mobipocket-ebook", ["mobi", "prc"]),
   ("application/x-ms-application", ["application"]),
   ("application/x-ms-manifest", ["manifest"]),
   ("application/x-ms-wmd", ["wmd"]),
   ("application/x-ms-wmz", ["wmz"]),
   ("application/x-ms-xbap", ["xbap"]),
   ("application/x-msaccess", ["mdb"]),
   ("application/x-msclip", ["clp"]),
   ("application/x-msdownload", ["bat", "com", "dll"]),
   ("application/x-msmetafile", ["wmf"]),
   ("application/x-mspublisher", ["pub"]),
   ("application/x-netcdf", ["nc"]),
   ("application/x-perl", ["pl", "pm"]),
   ("application/x-pkcs12", ["p12", "pfx"]),
   ("application/x-pkcs7-certificates", ["p7b", "spc"]),
   ("application/x-pkcs7-certreqresp", ["p7r"]),
   ("application/x-rar-compressed", ["rar"]),
   ("application/x-sh", ["sh"]),
   ("application/x-shar", ["shar"]),
   ("application/x-shockwave-flash", ["mfp", "swf"]),
   ("application/x-silverlight-app", ["xap"]),
   ("application/x-sql", ["sql"]),
   ("application/x-stuffit", ["sit"]),
   ("application/x-tar", ["tar"]),
   ("application/x-tcl", ["tcl"]),
   ("application/x-tex", ["tex"]),
   ("application/x-texinfo", ["texi", "texinfo"]),
   ("application/x-troff", ["roff", "t", "tr"]),
   ("application/x-troff-man", ["man"]),
   ("application/x-troff-me", ["me"]),
   ("application/x-troff-ms", ["ms"]),
   ("application/x-ustar", ["ustar"]),
   ("application/x-wais-source", ["src"]),
   ("application/x-x509-ca-cert", ["cer", "crt", "der", "pem"]),
   ("application/x-xpinstall", ["xpi"]),
   ("application/x-xz", ["xz"]),
   ("x-world/x-vrml", ["flr", "wrl", "wrz", "xaf", "xof"])]

/-- The type of a file whose ending stands for none. -/
def unknown : String := "application/octet-stream"

/-- The types of text that are given as UTF-8. -/
def utf8Types : List String :=
  ["application/javascript", "text/html", "text/css", "text/plain", "text/csv",
   "text/tab-separated-values"]

/-- The ending of a file's name, in lower case; empty if it has none. A dot in front starts no
ending. -/
def ending (name : String) : String :=
  match Text.splitChars '.' ((Text.splitChars '/' name.toList).getLastD []) with
  | [] | [_] | [[], _] => ""
  | parts => Text.lowerAscii (String.ofList (parts.getLastD []))

/-- The type that goes with an ending. -/
def ofEnding (ending : String) : String :=
  ((endings.find? fun e => ending ∈ e.2).map Prod.fst).getD unknown

/-- The content type of a file. -/
def ofName (name : String) : String :=
  let type := ofEnding (ending name)
  if type ∈ utf8Types then type ++ "; charset=utf-8" else type

end DeviceSetup.Http.FileType
