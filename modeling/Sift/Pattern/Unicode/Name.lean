/-!
Letters and digits in the names of groups.

The names follow a later version of the standard than the classes of patterns do: they may hold
characters that no class but that of the unassigned ones holds.  The code points are written as
gaps and lengths of ranges; `Ranges` says how the numbers are written.
-/

namespace Sift
namespace Pattern
namespace Unicode

/-- Letters, and marks that stand for letters. -/
def nameLetters : List String :=
  ["cNZGZbVAKAEAFWBbEBrPELOEHABAdIAbDRBBCDBAGABCBABTBdEBfIIgJBbLCAGbObNNBABBBBBAIbAEDbDKFcDB",
   "GOdXBHEHECKCCAQbVNdWYbGJBEAFXCSTYHKFXBGHAIbPKLDGGcXBPBCEONSBHCBCVBGBADDDHCBCBBAIAEBBEMBK",
   "AECBFEBCVBGBBBBBBEEEBCBEAHDBARFLCBIBCBVBGBBBEDIBCBBDAPDVDECBHCBCVBGBBBEDHCBCBJBEBBENAQBB",
   "FDCBDDBBABBDBDCDLEEDCBCDAGAbOMBCBWBPDHBCBCIBBCBBCDbCDBHBCBWBJBEDHBCBCIBFCBDNCMMBCBbOCHBC",
   "BCBAFDHEWFBCBRDXBIBACGIFBABHSBNcFFGGAbZBBABEBXBABSBCCEBAGAODbGAcLHBbJESEPBbJcPcCBACEQcLK",
   "DCbLBAFACbQBmUBDCGBABDCbOBDCbGBDCGBABDCOBcEBDCcObLPQdHCFDxVCQBZFcWDKHTLUMTMMBCBBMbZCSOAE",
   "AcPdKHbQFcRKbEBLEIXbDCELbREZcCbBEcKCTbYAXBLCbXbZBOBHbZbPCDKbRBKOcCWCKbJCKFbQCCbPDBFBBDAF",
   "hJTbHLkRCFCbLCFCHBABABABbECcABGBADCBGDDCFEMFCBGeMANAQMdXAEACJBADEGABABABDBKCDFEEARbObfHb",
   "ZcrUiUGDDBMbLBAFACcDHAQWJGBGBGBGBGBGBGBGBbFbVAsBCZIHECEEdHGCBdLBDFbQBdPRbFbWPtSjtNcMbguE",
   "cPbTCkIDPKBUbUFHDeIbNICdYCdDUUBbGYbZMcPBAbSFDABCKbGFbINbCDbYBLPAQPKEBcCJNSWDcQBABAYCCPCD",
   "LFCFCFJGBGBbQBNGeSVqnRMWEbWmnCoBCeBbMGMEFLBMBEBABBBBBeDbHnYScLCcBbOLeMEBfEbKZGZLdKDFCFCF",
   "CCbJLBZBSBBBOCNbIeScRcAkHbCDbWbVbFNbDFbQFbDCbJEHBEbQgBSbJEbJEbNIbZMKBOBGBBBKBOBGBBDbZMlY",
   "JVKHYFBbPBIcRFCABbRBBDACWKWJbEcNSBBKVKZGZbMcDGBcMDBBFHBCBbCbQbCDbCbJHBbBbBcBKVKSNReGcUcD",
   "bYNbYNbNbIbBDAFWjQbPBBDBQFbYCDbCKAIVbQRbUUbBWJcRbREKcEJANYXbYRDIbIDAJcLBDJBKABAbJRBbHCAG",
   "DcKGBABDBOBJHcEXDBHCBCVBGBBBEDHCBCBDAGAFGbCJBACABbLBJBACABDBBDABAbScNBCBDUCbEcNCBBAhCcBC",
   "GZFbIcKBADAcHcBCAcTbACNVGhDcEdZcLbFHCACHBBBbDBBCBCDdPHCbTCFBABBbBbYCJRcTFAScUdZHdKbGbFIB",
   "bSBGBAbXbDCVBNcVGBBBbRDABBBCBACBYFBBBbKBBBDBAXbRkAWJQBbODCeHAdBbjLdYeGRhNdxKdSPbpFRFZfxQ",
   "FwKkdDbUcpDvWHbERdARbDSbVQDbFUFSqQbSiDcLbGYCYbScWEcEHQcMBBAMGJkxXbPbFdTeKmwRDBGBBBlEPAbD",
   "CCAODIpFdkUeCFMDIHJEAiwFdGBcSBBCACBCDBLBABGBcMBDCHBGBbBBDBEBADGBnBCYBYBbEBYBbEBYBbEBYBbE",
   "BYBHcsYbEGFiFGBQCGBBBEFcJbHAeIbSKGQAmJbDSbRsQbBiUbDCAhZbEBVIBiQGBDBBBOBhOcHcPDADAbuIDBbA",
   "BBBACABJBDBABAGAEABABABCBBBACABABABABABBBACDBGBDBDBABJBQFCBEBQyEZGZGZfmKclfBbGgmNCioBClb",
   "KPxXdqWuVcfYhhYFmoN"]

/-- Digits and other numbers. -/
def nameDigits : List String :=
  ["bWJeQBFACCcdLJfEJhQJpWJeOJEFeEJeOJeOJCFeGMeLJIGdZJeAGHSeFJdSJeOJcSTkIJcSJbbRTbhXCjFJGJWJ",
   "lOJeYKgJJGJhAJdIJfEJGJboGADFGJhQbYCEbbYcHdAVyGbDcbHAbdXAZIOCnFDfIJbEHBObGJbNObrsAJhGJmIF",
   "fYJbMJhQJWJdIJpQJbfmCJsZbSMcERBnDbAbKDbDAIAfEEhUJbkGHZGbNIcXEWFgEBCPCbTcMIcABbECcXEeAHYH",
   "bPGmSFbWJGJkSbEgCJbQDeIGfEbDeYJcIJfOJHTjRJnEJeOJoKJdYJGTcYLqESdPJzMJdIbCiTJcSJcCJnUJdYUb",
   "pBeGxaFJdmCJdIJfEJBGuGJkCWnLCbjfLJceWTMTeEYbqRbXdnCJqGJtIJjNJbbOIeYJbeLcGBCBDcYbSBOblAMe",
   "dFJ"]

end Unicode
end Pattern
end Sift
